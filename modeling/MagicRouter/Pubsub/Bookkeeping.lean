import MagicRouter.Pubsub.Ledger

/-! The three maps of a connection kept in step: no subscription is left without
listeners, every listener is found through the index of its request, and no request
is both unanswered and listening. Notifications, unsubscriptions and reconnects then
reach exactly the listeners they are meant for. -/

namespace MagicRouter.Connection

open Library

/-- The message an iteration reads from the socket, if it reads one. -/
def Event.message (event : Event) : Option WebsocketMessage :=
  match event.input with
  | .received (.data frame) => frame.bind WebsocketMessage.deserialize
  | _ => none

/-- A subscription that is taken and sent does not carry the request id of a listener.
This is all that is needed of the ids of live subscriptions: a request is then never
answered under the id of another one. -/
def Fresh (s : Session) (event : Event) : Prop :=
  ∀ sub, event.input = .request sub → event.sent = true → ∀ subid subscriber handle,
    s.connection.listener subid subscriber = some handle → handle.requestId ≠ sub.requestId

/-- The bookkeeping invariant of a connection. -/
structure Booked (c : WebsocketConnection) : Prop where
  keyed : ∀ request sub, c.inflights.lookup request = some sub → sub.requestId = request
  occupied : ∀ subid, c.subscriptions.lookup subid ≠ some ∅
  indexed : ∀ subid subscriber handle, c.listener subid subscriber = some handle →
    c.requestToSubs.lookup handle.requestId = some subid
  apart : ∀ subid subscriber handle, c.listener subid subscriber = some handle →
    c.inflights.lookup handle.requestId = none
  sole : ∀ subid subscriber handle other handle', c.listener subid subscriber = some handle →
    c.listener subid other = some handle' → handle.requestId = handle'.requestId →
    subscriber = other

theorem keyed_insert {inflights : Store RequestId Subscription} (taken : Subscription)
    (keyed : ∀ request sub, inflights.lookup request = some sub → sub.requestId = request) :
    ∀ request sub, (inflights.insert taken.requestId taken).lookup request = some sub →
      sub.requestId = request := by
  intro request sub found
  rw [Store.lookup_insert_if] at found
  split at found
  · cases found
    exact Eq.symm ‹_›
  · exact keyed request sub found

theorem keyed_erase {inflights : Store RequestId Subscription} (answered : RequestId)
    (keyed : ∀ request sub, inflights.lookup request = some sub → sub.requestId = request) :
    ∀ request sub, (inflights.erase answered).lookup request = some sub →
      sub.requestId = request := by
  intro request sub found
  rw [Store.lookup_erase_if] at found
  split at found
  · cases found
  · exact keyed request sub found

/-- What one iteration makes of the maps. -/
inductive Outcome (c : WebsocketConnection) (event : Event) : WebsocketConnection → Prop where
  | idle : Outcome c event c
  /-- a notification was passed on and took the listeners off whose channel is closed -/
  | notified (params : NotificationParams) (listeners : Listeners)
      (message : event.message = some (.notification params))
      (present : c.subscriptions.lookup params.subscription = some listeners) :
      Outcome c event (c.setListeners params.subscription
        (listeners.eraseAll (listeners.keys.filter event.closed)))
  /-- a confirmation met a closed channel -/
  | unheard (s : SubscriptionResult) (sub : Subscription)
      (message : event.message = some (.subscribed s))
      (found : c.inflights.lookup s.id = some sub)
      (gone : event.closed sub.subscriberId = true) :
      Outcome c event { c with
        inflights := c.inflights.erase s.id
        requestToSubs := c.requestToSubs.insert s.id s.result }
  | confirmed (s : SubscriptionResult) (sub : Subscription)
      (message : event.message = some (.subscribed s))
      (found : c.inflights.lookup s.id = some sub)
      (opened : event.closed sub.subscriberId = false) :
      Outcome c event (WebsocketConnection.register { c with
        inflights := c.inflights.erase s.id
        requestToSubs := c.requestToSubs.insert s.id s.result } s.result sub.subscriberId
        { tx := sub.tx, requestId := sub.requestId, upstream := sub.upstream })
  | unsubscribed (u : Unsubscription) (id : RequestId) (subid : SubscriptionId)
      (subscribers : Listeners) (input : event.input = .unsubscription u id)
      (sent : event.sent = true) (requested : c.requestToSubs.lookup u.requestId = some subid)
      (present : c.subscriptions.lookup subid = some subscribers) :
      Outcome c event (c.setListeners subid (subscribers.erase u.subscriberId))
  | requested (sub : Subscription) (input : event.input = .request sub)
      (sent : event.sent = true) :
      Outcome c event { c with inflights := c.inflights.insert sub.requestId sub }
  /-- a send failed: the maps of the socket are cleared, unanswered requests stay -/
  | reset (c' : WebsocketConnection) (ok : Bool)
      (reconnected : .reconnect ok ∈ (c.handle event).2.map Emission.deed)
      (subscriptions : c'.subscriptions = ∅) (requestToSubs : c'.requestToSubs = ∅)
      (inflights : c'.inflights = c.inflights ∨ ∃ sub, event.input = .request sub ∧
        c'.inflights = c.inflights.insert sub.requestId sub) : Outcome c event c'

variable {c c' : WebsocketConnection} {event : Event}

theorem notify_outcome {params : NotificationParams}
    (message : event.message = some (.notification params)) :
    Outcome c event (c.notify params event.closed).1 := by
  unfold WebsocketConnection.notify
  split
  · exact .idle
  · exact .notified params _ message ‹_›

theorem confirm_outcome {s : SubscriptionResult}
    (message : event.message = some (.subscribed s)) :
    Outcome c event (c.confirm s event.closed).1 := by
  unfold WebsocketConnection.confirm
  split
  · exact .idle
  · rename_i sub found
    dsimp only
    split
    · exact .unheard s sub message found ‹_›
    · exact .confirmed s sub message found (Bool.eq_false_iff.mpr ‹_›)

theorem handle_unsubscription {u : Unsubscription} {id : RequestId}
    (input : event.input = .unsubscription u id) : c.handle event = c.unsubscribe u id event := by
  rw [WebsocketConnection.handle, input]

theorem reestablish_reconnects (connects : Nat → Bool) :
    .reconnect (c.reestablish connects).1.running ∈ (c.reestablish connects).2.map Emission.deed := by
  simp [WebsocketConnection.reestablish]

/-- A failed send, after whatever was done before it. -/
theorem reset_outcome {before : WebsocketConnection} {first : List Emission}
    (handled : c.handle event =
      ((before.reestablish event.connects).1, first ++ (before.reestablish event.connects).2))
    (inflights : before.inflights = c.inflights ∨ ∃ sub, event.input = .request sub ∧
      before.inflights = c.inflights.insert sub.requestId sub) :
    Outcome c event (before.reestablish event.connects).1 := by
  refine .reset _ (before.reestablish event.connects).1.running ?_ rfl rfl inflights
  rw [handled, List.map_append]
  exact List.mem_append_right _ (reestablish_reconnects event.connects)

theorem unsubscribe_outcome {u : Unsubscription} {id : RequestId}
    (input : event.input = .unsubscription u id) : Outcome c event (c.handle event).1 := by
  have handled := handle_unsubscription (c := c) input
  unfold WebsocketConnection.unsubscribe at handled
  split at handled
  · rw [handled]
    exact .idle
  · split at handled
    · rw [handled]
      exact .idle
    · rename_i requested _ subscribers present
      dsimp only [WebsocketConnection.afterSend] at handled
      split at handled
      · rw [handled]
        exact .unsubscribed u id _ subscribers input ‹_› requested present
      · rw [List.append_cons] at handled
        rw [handled]
        exact reset_outcome handled (.inl rfl)

/-- The outcomes are all that an iteration can do. -/
theorem handle_outcome : Outcome c event (c.handle event).1 := by
  cases input : event.input with
  | received message =>
    cases message with
    | pong =>
      rw [WebsocketConnection.handle, input]
      exact .idle
    | data frame =>
      have message : event.message = frame.bind WebsocketMessage.deserialize := by
        rw [Event.message, input]
      rw [WebsocketConnection.handle, input]
      dsimp only [WebsocketConnection.receive]
      split
      · exact .idle
      · exact notify_outcome (message.trans ‹_›)
      · exact confirm_outcome (message.trans ‹_›)
      · exact .idle
  | unsubscription u id => exact unsubscribe_outcome input
  | request sub =>
    have handled : c.handle event = c.subscribe sub event := by
      rw [WebsocketConnection.handle, input]
    dsimp only [WebsocketConnection.subscribe, WebsocketConnection.afterSend] at handled
    split at handled
    · rw [handled]
      exact .requested sub input ‹_›
    · rw [handled]
      exact reset_outcome (show _ = (_, [_, _] ++ _) from handled) (.inr ⟨sub, input, rfl⟩)
  | ping =>
    have handled : c.handle event = ((c.afterSend event).1,
        { moment := c, deed := .ping event.sent } :: (c.afterSend event).2) := by
      rw [WebsocketConnection.handle, input]
    unfold WebsocketConnection.afterSend at handled
    split at handled
    · rw [handled]
      exact .idle
    · rw [handled]
      exact reset_outcome (show _ = (_, [_] ++ _) from handled) (.inl rfl)

/-- Requests are kept under their own ids. -/
theorem Outcome.keyed (outcome : Outcome c event c')
    (keyed : ∀ request sub, c.inflights.lookup request = some sub → sub.requestId = request) :
    ∀ request sub, c'.inflights.lookup request = some sub → sub.requestId = request := by
  cases outcome with
  | idle => exact keyed
  | notified => exact keyed
  | unheard s => exact keyed_erase s.id keyed
  | confirmed s => exact keyed_erase s.id keyed
  | unsubscribed => exact keyed
  | requested sub => exact keyed_insert sub keyed
  | reset _ _ _ _ _ inflights =>
    rcases inflights with same | ⟨sub, _, added⟩
    · rw [same]
      exact keyed
    · rw [added]
      exact keyed_insert sub keyed

/-- Without listeners nothing is booked but the unanswered requests. -/
theorem Booked.of_empty
    (keyed : ∀ request sub, c.inflights.lookup request = some sub → sub.requestId = request)
    (empty : c.subscriptions = ∅) : Booked c := by
  have silent (subid : SubscriptionId) (subscriber : SubscriberId) :
      c.listener subid subscriber = none := by
    rw [WebsocketConnection.listener, empty]
    rfl
  refine ⟨keyed, ?_, ?_, ?_, ?_⟩
  · intro subid present
    rw [empty] at present
    cases present
  all_goals
    intro subid subscriber handle
    simp [silent]

/-- Listeners may be taken off, as long as no subscription is left without any. -/
theorem Booked.of_fewer (booked : Booked c) (inflights : c'.inflights = c.inflights)
    (requestToSubs : c'.requestToSubs = c.requestToSubs)
    (occupied : ∀ subid, c'.subscriptions.lookup subid ≠ some ∅)
    (fewer : ∀ subid subscriber handle, c'.listener subid subscriber = some handle →
      c.listener subid subscriber = some handle) : Booked c' where
  keyed request sub found := booked.keyed request sub (inflights ▸ found)
  occupied := occupied
  indexed subid subscriber handle found := by
    rw [requestToSubs]
    exact booked.indexed subid subscriber handle (fewer _ _ _ found)
  apart subid subscriber handle found := by
    rw [inflights]
    exact booked.apart subid subscriber handle (fewer _ _ _ found)
  sole subid subscriber handle other handle' found found' same :=
    booked.sole subid subscriber handle other handle' (fewer _ _ _ found) (fewer _ _ _ found') same

theorem Booked.setListeners (booked : Booked c) {subid : SubscriptionId}
    {old new : Listeners} (present : c.subscriptions.lookup subid = some old)
    (fewer : ∀ subscriber handle, new.lookup subscriber = some handle →
      old.lookup subscriber = some handle) : Booked (c.setListeners subid new) := by
  refine booked.of_fewer rfl rfl ?_ ?_
  · intro other
    unfold WebsocketConnection.setListeners
    dsimp only
    split
    · rw [Store.lookup_erase_if]
      split
      · simp
      · exact booked.occupied other
    · rename_i some
      rw [Store.lookup_insert_if]
      split
      · rintro ⟨⟩
        exact some rfl
      · exact booked.occupied other
  · intro other subscriber handle found
    rw [WebsocketConnection.listener_setListeners] at found
    split at found
    · rename_i same
      rw [same, WebsocketConnection.listener_of_lookup present]
      exact fewer subscriber handle found
    · exact found

/-- A request is taken whose id is no listener's. -/
theorem Booked.request (booked : Booked c) (sub : Subscription)
    (fresh : ∀ subid subscriber handle, c.listener subid subscriber = some handle →
      handle.requestId ≠ sub.requestId) :
    Booked { c with inflights := c.inflights.insert sub.requestId sub } where
  keyed := keyed_insert sub booked.keyed
  occupied := booked.occupied
  indexed := booked.indexed
  apart subid subscriber handle found := by
    rw [Store.lookup_insert_if, if_neg (fresh subid subscriber handle found)]
    exact booked.apart subid subscriber handle found
  sole := booked.sole

/-- The answer to a request indexes it. No listener has its id, so the others are
found as before. -/
theorem Booked.answer (booked : Booked c) {s : SubscriptionResult} {sub : Subscription}
    (found : c.inflights.lookup s.id = some sub) : Booked { c with
      inflights := c.inflights.erase s.id
      requestToSubs := c.requestToSubs.insert s.id s.result } where
  keyed := keyed_erase s.id booked.keyed
  occupied := booked.occupied
  indexed subid subscriber handle registered := by
    have different : handle.requestId ≠ s.id := by
      intro same
      have vacant := booked.apart subid subscriber handle registered
      rw [same, found] at vacant
      cases vacant
    rw [Store.lookup_insert_if, if_neg different]
    exact booked.indexed subid subscriber handle registered
  apart subid subscriber handle registered := by
    rw [Store.lookup_erase_if]
    split
    · rfl
    · exact booked.apart subid subscriber handle registered
  sole := booked.sole

/-- A listener whose request is indexed under its subscription, and is no other's. -/
theorem Booked.register (booked : Booked c) {subid : SubscriptionId} {subscriber : SubscriberId}
    {handle : SubscriberHandle}
    (indexed : c.requestToSubs.lookup handle.requestId = some subid)
    (apart : c.inflights.lookup handle.requestId = none)
    (fresh : ∀ other subscriber' handle', c.listener other subscriber' = some handle' →
      handle'.requestId ≠ handle.requestId) : Booked (c.register subid subscriber handle) where
  keyed := booked.keyed
  occupied other := by
    unfold WebsocketConnection.register
    dsimp only
    rw [Store.lookup_insert_if]
    split
    · intro empty
      have absent := congrArg (AList.lookup subscriber) (Option.some.inj empty)
      rw [AList.lookup_insert] at absent
      cases absent
    · exact booked.occupied other
  indexed other subscriber' handle' found := by
    rw [WebsocketConnection.listener_register] at found
    split at found
    · cases found
      rename_i here
      exact here.1 ▸ indexed
    · exact booked.indexed other subscriber' handle' found
  apart other subscriber' handle' found := by
    rw [WebsocketConnection.listener_register] at found
    split at found
    · cases found
      exact apart
    · exact booked.apart other subscriber' handle' found
  sole other first handle₁ second handle₂ found₁ found₂ same := by
    rw [WebsocketConnection.listener_register] at found₁ found₂
    split at found₁ <;> split at found₂
    · exact (‹_ ∧ first = _›.2).trans (‹_ ∧ second = _›.2).symm
    · cases found₁
      exact absurd same.symm (fresh other second handle₂ found₂)
    · cases found₂
      exact absurd same (fresh other first handle₁ found₁)
    · exact booked.sole other first handle₁ second handle₂ found₁ found₂ same

theorem Booked.outcome (booked : Booked c) (outcome : Outcome c event c')
    (fresh : ∀ sub, event.input = .request sub → event.sent = true →
      ∀ subid subscriber handle, c.listener subid subscriber = some handle →
        handle.requestId ≠ sub.requestId) : Booked c' := by
  have keyed := outcome.keyed booked.keyed
  cases outcome with
  | idle => exact booked
  | notified params listeners _ present =>
    apply booked.setListeners present
    intro subscriber handle found
    rw [Store.lookup_eraseAll] at found
    split at found
    · cases found
    · exact found
  | unheard s sub _ found _ => exact booked.answer found
  | confirmed s sub _ found _ =>
    have named := booked.keyed s.id sub found
    refine (booked.answer found).register ?_ ?_ ?_
    · rw [named]
      exact AList.lookup_insert _
    · rw [named]
      exact AList.lookup_erase _ _
    · intro subid subscriber handle registered same
      have vacant := booked.apart subid subscriber handle registered
      rw [same, named, found] at vacant
      cases vacant
  | unsubscribed u _ subid subscribers _ _ _ present =>
    apply booked.setListeners present
    intro subscriber handle found
    rw [Store.lookup_erase_if] at found
    split at found
    · cases found
    · exact found
  | requested sub input sent => exact booked.request sub (fresh sub input sent)
  | reset _ _ _ subscriptions => exact .of_empty keyed subscriptions

variable {s t : Session} {events : List Event} {id : Nat} {url : Url}

theorem Booked.start : Booked (Session.start id url).connection :=
  .of_empty (fun _ _ found => by cases found) rfl

theorem Booked.run (run : Run (Guarded Fresh (Fires step)) (.start id url) events s) :
    Booked s.connection := by
  induction run with
  | nil => exact .start
  | snoc _ last booked =>
    obtain ⟨fresh, fired⟩ := last
    rw [(step_eq_some fired).2.1]
    exact booked.outcome handle_outcome fresh

/-- The subscriber a deed sends a message to. -/
def Deed.addressee : Deed → Option SubscriberId
  | .deliver subscriber _ _ _ => some subscriber
  | _ => none

/-- What is sent to a subscriber, in order. -/
def deliveries (subscriber : SubscriberId) (log : List Emission) : List Deed :=
  (log.map Emission.deed).filter fun deed => deed.addressee = some subscriber

/-- One message to each listener of the subscription. -/
theorem notify_deliveries (params : NotificationParams) (closed : SubscriberId → Bool)
    (subscriber : SubscriberId) : deliveries subscriber (c.notify params closed).2 =
      (c.listener params.subscription subscriber).toList.map fun handle =>
        .deliver subscriber handle.tx
          (.notification handle.requestId handle.upstream params.result) (!closed subscriber) := by
  unfold WebsocketConnection.notify WebsocketConnection.listener
  cases c.subscriptions.lookup params.subscription with
  | none => rfl
  | some listeners =>
    have mine := listeners.filter_entries subscriber
    simp only [deliveries, List.map_map, List.filter_map, Function.comp_def, Deed.addressee,
      Option.some.injEq, Option.bind_some]
    rw [mine]
    cases listeners.lookup subscriber with
    | none => rfl
    | some handle => rfl

theorem handle_message {message : WebsocketMessage} (read : event.message = some message) :
    ∃ frame, frame.bind WebsocketMessage.deserialize = some message ∧
      c.handle event = ((c.receive frame event.closed).1,
        { moment := c, deed := .receive frame } :: (c.receive frame event.closed).2) := by
  unfold Event.message at read
  split at read
  · rename_i frame input
    exact ⟨frame, read, by rw [WebsocketConnection.handle, input]⟩
  · cases read

theorem handle_notification {params : NotificationParams}
    (message : event.message = some (.notification params)) :
    ∃ frame, c.handle event = ((c.notify params event.closed).1,
      { moment := c, deed := .receive frame } :: (c.notify params event.closed).2) := by
  obtain ⟨frame, decoded, handled⟩ := handle_message (c := c) message
  refine ⟨frame, handled.trans ?_⟩
  simp only [WebsocketConnection.receive, decoded]

/-- An unsubscription by a listener, found through the index, takes it off. -/
theorem Booked.unsubscribe (booked : Booked c) {u : Unsubscription} {id : RequestId}
    {subid : SubscriptionId} {handle : SubscriberHandle}
    (registered : c.listener subid u.subscriberId = some handle)
    (own : handle.requestId = u.requestId) :
    ∃ subscribers, c.subscriptions.lookup subid = some subscribers ∧
      c.unsubscribe u id event =
        (((c.setListeners subid (subscribers.erase u.subscriberId)).afterSend event).1,
          { moment := c, deed := .release subid u.subscriberId handle } ::
          { moment := c.setListeners subid (subscribers.erase u.subscriberId)
            deed := .unsubscribe id u.method subid event.sent } ::
          ((c.setListeners subid (subscribers.erase u.subscriberId)).afterSend event).2) := by
  have requested := booked.indexed subid u.subscriberId handle registered
  obtain ⟨subscribers, present, found⟩ := Option.bind_eq_some_iff.mp registered
  refine ⟨subscribers, present, ?_⟩
  rw [own] at requested
  simp [WebsocketConnection.unsubscribe, requested, present, found]

theorem reestablish_releases (connects : Nat → Bool) :
    gather Deed.released (c.reestablish connects).2 = 0 :=
  reestablish_gather_eq_zero connects (fun _ _ _ => rfl) fun _ => rfl

/-- Each listener is told of the disconnect once, under its own request id. -/
theorem reestablish_disconnects (connects : Nat → Bool) :
    gather Deed.disconnected (c.reestablish connects).2 = listening c := by
  have unheard : gather Deed.foundClosed (c.reestablish connects).2 = 0 :=
    reestablish_gather_eq_zero connects (fun _ _ _ => rfl) fun _ => rfl
  have told := reestablish_ended (c := c) connects
  rwa [gather_ended, reestablish_releases, unheard, add_zero, zero_add] at told

theorem afterSend_releases : gather Deed.released (c.afterSend event).2 = 0 := by
  unfold WebsocketConnection.afterSend
  split
  · rfl
  · exact reestablish_releases event.connects

/-- A request, an unsubscription or a ping could not be sent. -/
def Deed.isFailure : Deed → Bool
  | .subscribe _ ok => !ok
  | .unsubscribe _ _ _ ok => !ok
  | .ping ok => !ok
  | _ => false

/-- Whether an iteration sends something on the socket. -/
def WebsocketConnection.sends (c : WebsocketConnection) : Input → Bool
  | .received _ => false
  | .unsubscription u _ =>
    ((c.requestToSubs.lookup u.requestId).bind c.subscriptions.lookup).isSome
  | .request _ => true
  | .ping => true

/-- The connection that is reestablished should the send of an iteration fail. An
unsubscription has taken its listener off by then. -/
def WebsocketConnection.remaining (c : WebsocketConnection) : Input → WebsocketConnection
  | .received _ | .ping => c
  | .unsubscription u _ =>
    match c.requestToSubs.lookup u.requestId with
    | none => c
    | some subid =>
      match c.subscriptions.lookup subid with
      | none => c
      | some subscribers => c.setListeners subid (subscribers.erase u.subscriberId)
  | .request sub => { c with inflights := c.inflights.insert sub.requestId sub }

theorem receive_running (frame : Option Json) (closed : SubscriberId → Bool) :
    (c.receive frame closed).1.running = c.running := by
  unfold WebsocketConnection.receive
  split
  · rfl
  · unfold WebsocketConnection.notify
    split <;> rfl
  · unfold WebsocketConnection.confirm
    split
    · rfl
    · dsimp only
      split <;> rfl
  · rfl

/-- The loop goes on, with nothing to report. -/
def Untroubled (c : WebsocketConnection) (event : Event) : Prop :=
  (c.handle event).1.running = c.running ∧ ∀ emission ∈ (c.handle event).2,
    emission.deed.isFailure = false ∧ ∀ ok, emission.deed ≠ .reconnect ok

theorem unsubscription_untroubled {u : Unsubscription} {request : RequestId}
    (input : event.input = .unsubscription u request)
    (quiet : c.sends event.input = true → event.sent = true) : Untroubled c event := by
  rw [input] at quiet
  unfold Untroubled
  rw [handle_unsubscription input]
  cases known : (c.requestToSubs.lookup u.requestId).bind c.subscriptions.lookup with
  | none =>
    rw [unsubscribe_unknown u request known]
    exact ⟨rfl, by simp⟩
  | some subscribers =>
    have sent : event.sent = true := quiet (by simp [WebsocketConnection.sends, known])
    obtain ⟨subid, requested, present⟩ := Option.bind_eq_some_iff.mp known
    simp only [WebsocketConnection.unsubscribe, requested, present, WebsocketConnection.afterSend,
      sent, if_true]
    refine ⟨rfl, fun emission member => ?_⟩
    simp only [List.mem_append, List.mem_map, Option.mem_toList, List.mem_singleton] at member
    rcases member with ⟨_, _, rfl⟩ | rfl <;> exact ⟨rfl, by simp⟩

/-- An iteration without a failed send. -/
theorem handle_untroubled (quiet : c.sends event.input = true → event.sent = true) :
    Untroubled c event := by
  cases input : event.input with
  | received message =>
    cases message with
    | pong => simp [Untroubled, WebsocketConnection.handle, input]
    | data frame =>
      rw [Untroubled, WebsocketConnection.handle, input]
      refine ⟨receive_running frame event.closed, fun emission member => ?_⟩
      rcases List.mem_cons.mp member with rfl | later
      · exact ⟨rfl, by simp⟩
      · obtain ⟨_, _, _, _, delivered⟩ := receive_delivers later
        rw [delivered]
        exact ⟨rfl, by simp⟩
  | unsubscription u request => exact unsubscription_untroubled input quiet
  | request sub =>
    have sent : event.sent = true := quiet (by rw [input]; rfl)
    simp [Untroubled, WebsocketConnection.handle, input, WebsocketConnection.subscribe,
      WebsocketConnection.afterSend, sent, Deed.isFailure]
  | ping =>
    have sent : event.sent = true := quiet (by rw [input]; rfl)
    simp [Untroubled, WebsocketConnection.handle, input, WebsocketConnection.afterSend, sent,
      Deed.isFailure]

/-- A failed send, and then the attempts to reconnect, with the listeners that are left. -/
theorem handle_broken (sends : c.sends event.input = true) (failed : event.sent = false) :
    ∃ first : List Emission,
      c.handle event = (((c.remaining event.input).reestablish event.connects).1,
        first ++ ((c.remaining event.input).reestablish event.connects).2) ∧
      (∃ emission ∈ first, emission.deed.isFailure = true) ∧
      ∀ emission ∈ first, emission.deed.disconnected = none ∧
        ∀ ok, emission.deed ≠ .reconnect ok := by
  cases input : event.input with
  | received message => simp [WebsocketConnection.sends, input] at sends
  | unsubscription u request =>
    simp only [WebsocketConnection.sends, input] at sends
    obtain ⟨subscribers, known⟩ := Option.isSome_iff_exists.mp sends
    obtain ⟨subid, requested, present⟩ := Option.bind_eq_some_iff.mp known
    refine ⟨((subscribers.lookup u.subscriberId).toList.map fun handle =>
        { moment := c, deed := .release subid u.subscriberId handle }) ++
        [{ moment := c.setListeners subid (subscribers.erase u.subscriberId)
           deed := .unsubscribe request u.method subid event.sent }], ?_, ?_, ?_⟩
    · simp [handle_unsubscription input, WebsocketConnection.unsubscribe, requested, present,
        WebsocketConnection.afterSend, failed, WebsocketConnection.remaining]
    · exact ⟨_, List.mem_append_right _ (List.mem_singleton.mpr rfl), by simp [Deed.isFailure, failed]⟩
    · intro emission member
      simp only [List.mem_append, List.mem_map, Option.mem_toList, List.mem_singleton] at member
      rcases member with ⟨_, _, rfl⟩ | rfl <;> exact ⟨rfl, by simp⟩
  | request sub =>
    refine ⟨[{ moment := c, deed := .take sub },
        { moment := { c with inflights := c.inflights.insert sub.requestId sub }
          deed := .subscribe sub event.sent }], ?_, ?_, ?_⟩
    · simp [WebsocketConnection.handle, input, WebsocketConnection.subscribe,
        WebsocketConnection.afterSend, failed, WebsocketConnection.remaining]
    · simp [Deed.isFailure, failed]
    · simp [Deed.disconnected]
  | ping =>
    refine ⟨[{ moment := c, deed := .ping event.sent }], ?_, ?_, ?_⟩
    · simp [WebsocketConnection.handle, input, WebsocketConnection.afterSend, failed,
        WebsocketConnection.remaining]
    · simp [Deed.isFailure, failed]
    · simp [Deed.disconnected]

/-- An iteration that reconnects does so after a failed send. -/
theorem handle_reconnect {ok : Bool}
    (deed : .reconnect ok ∈ (c.handle event).2.map Emission.deed) :
    c.sends event.input = true ∧ event.sent = false := by
  by_contra quiet
  obtain ⟨emission, member, reconnected⟩ := List.mem_map.mp deed
  have untroubled : Untroubled c event := handle_untroubled (by simpa using quiet)
  exact (untroubled.2 emission member).2 ok reconnected

/-- A check that only iterations meet that send no request under the id of a listener. -/
def freshly (s : Session) (event : Event) : Bool :=
  match event.input with
  | .request sub => s.connection.subscriptions.entries.all fun entry =>
      entry.2.entries.all fun listener => listener.2.requestId ≠ sub.requestId
  | _ => true

theorem freshly_sound (s : Session) (event : Event) (checked : freshly s event = true) :
    Fresh s event := by
  intro sub input _ subid subscriber handle registered
  obtain ⟨listeners, present, found⟩ := Option.bind_eq_some_iff.mp registered
  simp only [freshly, input, List.all_eq_true] at checked
  have apart := checked _ (Store.mem_entries_iff.mpr present) _ (Store.mem_entries_iff.mpr found)
  exact of_decide_eq_true apart

/-- A ping fails, and the socket can be replaced at the first attempt. -/
def brokenPing : Event := { calm .ping with sent := false }

end MagicRouter.Connection
