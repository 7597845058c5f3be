import MagicRouter.Library.Run
import MagicRouter.Pubsub.Connection

/-! Who listens to which subscription. Several subscribers may share one upstream
subscription, but an unsubscription by any of them is passed on upstream: the
others are spared only when the one that leaves is the only listener. -/

namespace MagicRouter.Connection

open Library

variable {c : WebsocketConnection} {event : Event} {subid other : SubscriptionId}
variable {subscriber : SubscriberId} {handle : SubscriberHandle}

namespace WebsocketConnection

/-- The listener a subscriber has registered under a subscription. -/
def listener (c : WebsocketConnection) (subid : SubscriptionId) (subscriber : SubscriberId) :
    Option SubscriberHandle :=
  (c.subscriptions.lookup subid).bind (·.lookup subscriber)

theorem listener_setListeners (listeners : Listeners) :
    (c.setListeners subid listeners).listener other subscriber =
      if other = subid then listeners.lookup subscriber else c.listener other subscriber := by
  unfold listener setListeners
  by_cases empty : listeners.entries.isEmpty = true
  · have vacant : listeners = ∅ := AList.ext (List.isEmpty_iff.mp empty)
    rw [if_pos empty, Store.lookup_erase_if]
    by_cases same : other = subid
    · rw [if_pos same, if_pos same, vacant]
      rfl
    · rw [if_neg same, if_neg same]
  · rw [if_neg empty, Store.lookup_insert_if]
    by_cases same : other = subid
    · rw [if_pos same, if_pos same]
      rfl
    · rw [if_neg same, if_neg same]

theorem listener_of_lookup {listeners : Listeners}
    (found : c.subscriptions.lookup subid = some listeners) :
    c.listener subid subscriber = listeners.lookup subscriber := by
  simp [listener, found]

/-- Taking off the listeners of a subscription that are gone. -/
theorem listener_dismiss {listeners : Listeners} (closed : SubscriberId → Bool)
    (present : c.subscriptions.lookup subid = some listeners) :
    (c.setListeners subid (listeners.eraseAll (listeners.keys.filter closed))).listener
        other subscriber =
      if other = subid ∧ closed subscriber = true then none else c.listener other subscriber := by
  rw [listener_setListeners, Store.lookup_eraseAll]
  by_cases same : other = subid
  · subst same
    rw [if_pos rfl, listener_of_lookup present]
    by_cases gone : closed subscriber = true
    · cases found : listeners.lookup subscriber with
      | none => simp
      | some handle =>
        have key : subscriber ∈ listeners.keys :=
          AList.mem_keys.mp (AList.lookup_isSome.mp (found ▸ rfl))
        simp [gone, key]
    · simp [gone]
  · simp [same]

/-- Taking one listener off. -/
theorem listener_release {listeners : Listeners} (leaving : SubscriberId)
    (present : c.subscriptions.lookup subid = some listeners) :
    (c.setListeners subid (listeners.erase leaving)).listener other subscriber =
      if other = subid ∧ subscriber = leaving then none else c.listener other subscriber := by
  rw [listener_setListeners]
  by_cases same : other = subid
  · subst same
    rw [if_pos rfl, Store.lookup_erase_if, listener_of_lookup present]
    simp only [true_and]
  · simp [same]

theorem listener_notify (params : NotificationParams) (closed : SubscriberId → Bool) :
    (c.notify params closed).1.listener subid subscriber =
      if subid = params.subscription ∧ closed subscriber = true then none
      else c.listener subid subscriber := by
  unfold notify
  split
  · rename_i vacant
    split
    · rename_i here
      rw [here.1, listener, vacant]
      rfl
    · rfl
  · exact listener_dismiss closed ‹_›

/-- A notification is sent to the listener, who stays if its channel is open. -/
theorem notify_listener (params : NotificationParams) (closed : SubscriberId → Bool)
    (found : c.listener subid subscriber = some handle) (opened : closed subscriber = false) :
    (c.notify params closed).1.listener subid subscriber = some handle := by
  rw [listener_notify, if_neg (by simp [opened]), found]

theorem notify_delivers (params : NotificationParams) (closed : SubscriberId → Bool)
    (found : c.listener params.subscription subscriber = some handle) :
    ∃ emission ∈ (c.notify params closed).2,
      emission.deed = .deliver subscriber handle.tx
        (.notification handle.requestId handle.upstream params.result) (!closed subscriber) := by
  obtain ⟨listeners, present, found⟩ := Option.bind_eq_some_iff.mp found
  unfold notify
  rw [present]
  exact ⟨_, List.mem_map_of_mem (Store.mem_entries_iff.mpr found), rfl⟩

theorem listener_register {subscriber' : SubscriberId} :
    (c.register subid subscriber handle).listener other subscriber' =
      if other = subid ∧ subscriber' = subscriber then some handle
      else c.listener other subscriber' := by
  simp only [register, listener, Store.lookup_insert_if]
  by_cases same : other = subid
  · subst same
    simp only [if_true, Option.bind_some, Store.lookup_insert_if, true_and]
    congr 1
    cases c.subscriptions.lookup other with
    | none => rfl
    | some listeners => rfl
  · simp [same]

theorem register_listener (registered : SubscriberId)
    (found : c.listener subid subscriber ≠ none) :
    (c.register other registered handle).listener subid subscriber ≠ none := by
  rw [listener_register]
  split
  · simp
  · exact found

/-- A confirmation registers one listener and leaves the others registered. -/
theorem confirm_listener (s : SubscriptionResult) (closed : SubscriberId → Bool)
    (found : c.listener subid subscriber ≠ none) :
    (c.confirm s closed).1.listener subid subscriber ≠ none := by
  unfold confirm
  split
  · exact found
  · dsimp only
    split
    · exact found
    · exact register_listener _ found

theorem receive_listener (frame : Option Json) (closed : SubscriberId → Bool)
    (found : c.listener subid subscriber ≠ none) (opened : closed subscriber = false) :
    (c.receive frame closed).1.listener subid subscriber ≠ none := by
  unfold receive
  split
  · exact found
  · obtain ⟨handle, found⟩ := Option.ne_none_iff_exists'.mp found
    simp [notify_listener _ closed found opened]
  · exact confirm_listener _ closed found
  · exact found

/-- An unsubscription takes off only the listener that asked for it. -/
theorem unsubscribe_listener (u : Unsubscription) (id : RequestId) (sent : event.sent = true)
    (found : c.listener subid subscriber ≠ none) (other : u.subscriberId ≠ subscriber) :
    (c.unsubscribe u id event).1.listener subid subscriber ≠ none := by
  unfold unsubscribe
  split
  · exact found
  · split
    · exact found
    · rename_i subscribers present
      simp only [afterSend, sent, if_true]
      rwa [listener_release _ present, if_neg (fun here => other here.2.symm)]

end WebsocketConnection

theorem unsubscribe_unknown (u : Unsubscription) (id : RequestId)
    (unknown : (c.requestToSubs.lookup u.requestId).bind c.subscriptions.lookup = none) :
    c.unsubscribe u id event = (c, []) := by
  unfold WebsocketConnection.unsubscribe
  split
  · rfl
  · rename_i subid requested
    rw [requested, Option.bind_some] at unknown
    rw [unknown]

/-- The iteration is no reconnect, no unsubscription of the subscriber itself, and
its channel is open. -/
def Spares (subscriber : SubscriberId) (event : Event) : Prop :=
  event.sent = true ∧ event.closed subscriber = false ∧
    ∀ u id, event.input = .unsubscription u id → u.subscriberId ≠ subscriber

theorem handle_listener (spares : Spares subscriber event)
    (found : c.listener subid subscriber ≠ none) :
    (c.handle event).1.listener subid subscriber ≠ none := by
  obtain ⟨sent, opened, foreign⟩ := spares
  unfold WebsocketConnection.handle
  split
  · exact found
  · exact WebsocketConnection.receive_listener _ _ found opened
  · exact WebsocketConnection.unsubscribe_listener _ _ sent found (foreign _ _ ‹_›)
  · simp only [WebsocketConnection.subscribe, WebsocketConnection.afterSend, sent, if_true]
    exact found
  · simpa [WebsocketConnection.afterSend, sent] using found

/-- Whoever unsubscribes is the only listener of the subscription. -/
def SoleListener (s : Session) (event : Event) : Prop :=
  ∀ u id subid, event.input = .unsubscription u id →
    s.connection.requestToSubs.lookup u.requestId = some subid →
    ∀ subscriber, s.connection.listener subid subscriber ≠ none → subscriber = u.subscriberId

/-- The emission is no unsubscribe request, or it was made when nobody listened. -/
def Orphaned (emission : Emission) : Prop :=
  ∀ id method subid ok, emission.deed = .unsubscribe id method subid ok →
    ∀ subscriber, emission.moment.listener subid subscriber = none

variable {emission : Emission} {id : RequestId} {method : String} {ok : Bool}

/-- Reestablishing sends nothing but the news of the disconnect. -/
theorem reestablish_does {connects : Nat → Bool} (member : emission ∈ (c.reestablish connects).2) :
    (∃ subscriber tx request, emission.deed = .deliver subscriber tx (.disconnected request) true) ∨
      emission.deed = .reconnect (c.reestablish connects).1.running := by
  simp only [WebsocketConnection.reestablish, WebsocketConnection.farewells, List.mem_append,
    List.mem_map, List.mem_flatMap, List.mem_singleton] at member
  rcases member with ⟨_, ⟨_, _, _, _, rfl⟩, rfl⟩ | rfl
  · exact .inl ⟨_, _, _, rfl⟩
  · exact .inr rfl

private theorem afterSend_not_unsubscribe (member : emission ∈ (c.afterSend event).2) :
    emission.deed ≠ .unsubscribe id method subid ok := by
  intro deed
  unfold WebsocketConnection.afterSend at member
  split at member
  · cases member
  · rcases reestablish_does member with ⟨_, _, _, told⟩ | reconnected
    · cases told.symm.trans deed
    · cases reconnected.symm.trans deed

/-- Reading a frame does nothing but send messages to subscribers. -/
theorem receive_delivers {frame : Option Json} {closed : SubscriberId → Bool}
    (member : emission ∈ (c.receive frame closed).2) :
    ∃ subscriber tx message ok, emission.deed = .deliver subscriber tx message ok := by
  unfold WebsocketConnection.receive at member
  split at member
  · cases member
  · unfold WebsocketConnection.notify at member
    split at member
    · cases member
    · obtain ⟨_, _, rfl⟩ := List.mem_map.mp member
      exact ⟨_, _, _, _, rfl⟩
  · unfold WebsocketConnection.confirm at member
    split at member
    · cases member
    · dsimp only at member
      split at member <;> (cases List.mem_singleton.mp member; exact ⟨_, _, _, _, rfl⟩)
  · cases member

/-- Unsubscribe requests are made by the handling of an unsubscription, once its
listener is taken off. -/
theorem handle_unsubscribe (member : emission ∈ (c.handle event).2)
    (deed : emission.deed = .unsubscribe id method subid ok) :
    ∃ u subscribers, event.input = .unsubscription u id ∧
      c.requestToSubs.lookup u.requestId = some subid ∧
      c.subscriptions.lookup subid = some subscribers ∧
      emission.moment = c.setListeners subid (subscribers.erase u.subscriberId) := by
  unfold WebsocketConnection.handle at member
  split at member
  · cases member
  · rcases List.mem_cons.mp member with rfl | later
    · cases deed
    · obtain ⟨_, _, _, _, delivered⟩ := receive_delivers later
      cases delivered.symm.trans deed
  · rename_i u generated input
    unfold WebsocketConnection.unsubscribe at member
    split at member
    · cases member
    · rename_i subid' requested
      split at member
      · cases member
      · rename_i subscribers present
        simp only [List.mem_append, List.mem_map, Option.mem_toList, List.mem_cons] at member
        rcases member with ⟨_, _, rfl⟩ | rfl | later
        · cases deed
        · cases deed
          exact ⟨u, subscribers, input, requested, present, rfl⟩
        · exact absurd deed (afterSend_not_unsubscribe later)
  · simp only [WebsocketConnection.subscribe, List.mem_cons] at member
    rcases member with rfl | rfl | later
    · cases deed
    · cases deed
    · exact absurd deed (afterSend_not_unsubscribe later)
  · rcases List.mem_cons.mp member with rfl | later
    · cases deed
    · exact absurd deed (afterSend_not_unsubscribe later)

theorem handle_orphaned {s : Session} (sole : SoleListener s event)
    (member : emission ∈ (s.connection.handle event).2) : Orphaned emission := by
  intro id method subid ok deed subscriber
  obtain ⟨u, subscribers, input, requested, present, moment⟩ := handle_unsubscribe member deed
  rw [moment, WebsocketConnection.listener_setListeners, if_pos rfl, Store.lookup_erase_if]
  split
  · rfl
  · rename_i other
    by_contra listening
    rw [← WebsocketConnection.listener_of_lookup present] at listening
    exact other (sole u id subid input requested subscriber listening)

variable {s t : Session} {events : List Event}

theorem step_eq_some (fired : step s event = some t) :
    s.connection.running = true ∧ t.connection = (s.connection.handle event).1 ∧
      t.log = s.log ++ (s.connection.handle event).2 := by
  unfold step at fired
  split at fired
  · cases fired
    exact ⟨‹_›, rfl, rfl⟩
  · cases fired

theorem orphaned_log {start : Nat} {url : Url}
    (run : Run (Guarded SoleListener (Fires step)) (.start start url) events t) :
    ∀ emission ∈ t.log, Orphaned emission := by
  induction run with
  | nil => simp [Session.start]
  | snoc _ last ih =>
    obtain ⟨sole, fired⟩ := last
    intro emission member
    rw [(step_eq_some fired).2.2] at member
    rcases List.mem_append.mp member with earlier | now
    · exact ih emission earlier
    · exact handle_orphaned sole now

/-- A listener stays registered, and its subscription is not cancelled, as long as
it is spared. -/
theorem listener_run (run : Run (Guarded SoleListener (Fires step)) s events t)
    (found : s.connection.listener subid subscriber ≠ none)
    (spares : ∀ event ∈ events, Spares subscriber event) :
    t.connection.listener subid subscriber ≠ none ∧ ∃ later, t.log = s.log ++ later ∧
      ∀ emission ∈ later, ∀ id method ok, emission.deed ≠ .unsubscribe id method subid ok := by
  induction run with
  | nil => exact ⟨found, [], by simp, by simp⟩
  | @snoc _ x event _ earlier last ih =>
    obtain ⟨listening, later, log, quiet⟩ := ih fun event member => spares event (by simp [member])
    obtain ⟨sole, fired⟩ := last
    obtain ⟨_, connection, grown⟩ := step_eq_some fired
    have spared := spares event (by simp)
    refine ⟨connection ▸ handle_listener spared listening, later ++ _,
      by rw [grown, log, List.append_assoc], ?_⟩
    intro emission member id method ok deed
    rcases List.mem_append.mp member with before | now
    · exact quiet emission before id method ok deed
    · obtain ⟨u, _, input, requested, _, _⟩ := handle_unsubscribe now deed
      exact spared.2.2 u id input (sole u id subid input requested subscriber listening).symm

/-- In every run in which whoever unsubscribes is the only listener, unsubscribe
requests are made only when nobody listens, and a listener keeps receiving every
notification of its subscription until it unsubscribes, closes its channel or the
connection is reestablished. -/
theorem unsubscribe_spares_listeners {start : Nat} {url : Url}
    (run : Run (Guarded SoleListener (Fires step)) (.start start url) events t) :
    (∀ emission ∈ t.log, ∀ id method subid ok, emission.deed = .unsubscribe id method subid ok →
      ∀ subscriber, emission.moment.listener subid subscriber = none) ∧
    ∀ before during middle subid subscriber, events = before ++ during →
      Run (Guarded SoleListener (Fires step)) (.start start url) before middle →
      Run (Guarded SoleListener (Fires step)) middle during t →
      middle.connection.listener subid subscriber ≠ none →
      (∀ event ∈ during, Spares subscriber event) →
      ∃ handle later, t.connection.listener subid subscriber = some handle ∧
        t.log = middle.log ++ later ∧
        (∀ emission ∈ later, ∀ id method ok, emission.deed ≠ .unsubscribe id method subid ok) ∧
        ∀ event frame params next, event.input = .received (.data (some frame)) →
          WebsocketMessage.deserialize frame = some (.notification params) →
          params.subscription = subid → step t event = some next →
          ∃ new, next.log = t.log ++ new ∧ ∃ emission ∈ new,
            emission.deed = .deliver subscriber handle.tx
              (.notification handle.requestId handle.upstream params.result)
              (!event.closed subscriber) := by
  refine ⟨orphaned_log run, ?_⟩
  intro before during middle subid subscriber _ _ rest found spares
  obtain ⟨listening, later, log, quiet⟩ := listener_run rest found spares
  obtain ⟨handle, registered⟩ := Option.ne_none_iff_exists'.mp listening
  refine ⟨handle, later, registered, log, quiet, ?_⟩
  rintro event frame params next input decoded rfl fired
  refine ⟨_, (step_eq_some fired).2.2, ?_⟩
  obtain ⟨emission, member, deed⟩ :=
    WebsocketConnection.notify_delivers params event.closed registered
  refine ⟨emission, ?_, deed⟩
  simp only [WebsocketConnection.handle, input, WebsocketConnection.receive, Option.bind_some,
    decoded]
  exact List.mem_cons_of_mem _ member

/-- An iteration in which no channel is closed and the send succeeds. -/
def calm (input : Input) : Event where
  input
  closed _ := false
  sent := true
  connects _ := true

/-- A subscription of the given subscriber to some account. -/
def accountSubscription (subscriber request : Nat) : Subscription where
  requestId := ⟨request⟩
  subscriberId := ⟨subscriber⟩
  payload := accountSubscriptionJson ⟨request⟩ .default none
  tx := ⟨subscriber⟩
  destination := { scheme := "wss", rest := "//chain" }
  upstream := .chain

/-- The reply that confirms a request. -/
def confirmation (request : Nat) (subid : SubscriptionId) : Json :=
  .obj [("jsonrpc", .str "2.0"), ("result", .num subid), ("id", .num request)]

/-- Subscribers 1 and 2 are confirmed under the given ids, then subscriber 1 leaves. -/
def oneLeaves (first second : SubscriptionId) : List Event :=
  [calm (.request (accountSubscription 1 11)), calm (.request (accountSubscription 2 12)),
    calm (.received (.data (some (confirmation 11 first)))),
    calm (.received (.data (some (confirmation 12 second)))),
    calm (.unsubscription
      { subscriberId := ⟨1⟩, requestId := ⟨11⟩, method := "accountUnsubscribe" } ⟨13⟩)]

/-- With the subscribers under ids 5 and 6, the second listens on. -/
theorem unsubscribe_spares_second :
    ∃ middle t handle later,
      Run (Guarded SoleListener (Fires step)) (.start 0 { scheme := "wss", rest := "//chain" })
        ((oneLeaves 5 6).take 4) middle ∧
      Run (Guarded SoleListener (Fires step)) middle ((oneLeaves 5 6).drop 4) t ∧
      t.connection.listener 6 ⟨2⟩ = some handle ∧ t.log = middle.log ++ later ∧ later ≠ [] ∧
      ∀ emission ∈ later, ∀ id method ok, emission.deed ≠ .unsubscribe id method 6 ok := by
  let sole (s : Session) (event : Event) : Bool := match event.input with
    | .unsubscription u _ => ((s.connection.requestToSubs.lookup u.requestId).bind
        s.connection.subscriptions.lookup).all fun listeners => listeners.keys.all (· = u.subscriberId)
    | _ => true
  have sound (s : Session) (event : Event) (checked : sole s event = true) :
      SoleListener s event := by
    intro u id subid input requested subscriber listening
    obtain ⟨handle, registered⟩ := Option.ne_none_iff_exists'.mp listening
    obtain ⟨listeners, present, found⟩ := Option.bind_eq_some_iff.mp registered
    have key : subscriber ∈ listeners.keys := AList.mem_keys.mp (AList.lookup_isSome.mp (found ▸ rfl))
    simp only [sole, input, requested, Option.bind_some, present, Option.all_some,
      List.all_eq_true, decide_eq_true_eq] at checked
    exact checked subscriber key
  obtain ⟨middle, first, rest⟩ := exists_run_of_exec
    (show (exec (checkedStep sole step) (.start 0 { scheme := "wss", rest := "//chain" })
      ((oneLeaves 5 6).take 4)).map (fun middle => (middle.connection.listener 6 ⟨2⟩).isSome &&
        (exec (checkedStep sole step) middle ((oneLeaves 5 6).drop 4)).any
          fun t => decide (middle.log.length < t.log.length)) = some true by decide +kernel)
  simp only [Bool.and_eq_true, Option.any_eq_true, decide_eq_true_eq] at rest
  obtain ⟨listening, t, executed, grown⟩ := rest
  have before := first.guarded_of_checked sound
  have during := (Run.of_exec executed).guarded_of_checked sound
  obtain ⟨handle, later, registered, log, quiet, _⟩ :=
    (unsubscribe_spares_listeners (before.append during)).2 _ _ middle 6 ⟨2⟩ rfl before during
      (Option.isSome_iff_ne_none.mp listening) (by simp [oneLeaves, Spares, calm])
  refine ⟨middle, t, handle, later, before, during, registered, log, ?_, quiet⟩
  rintro rfl
  simp [log] at grown

/-- Whether an unsubscribe request was made while the subscriber was listening. -/
def cutOff (subscriber : SubscriberId) (s : Session) : Bool :=
  s.log.any fun emission => match emission.deed with
    | .unsubscribe _ _ subid _ => (emission.moment.listener subid subscriber).isSome
    | _ => false

/-- With both subscribers under id 5, the subscription of the second is cancelled
by the first. -/
theorem oneLeaves_cuts_off :
    ¬ ∀ start url events t, Run (Fires step) (.start start url) events t →
      ∀ emission ∈ t.log, ∀ id method subid ok, emission.deed = .unsubscribe id method subid ok →
        ∀ subscriber, emission.moment.listener subid subscriber = none := by
  intro claimed
  obtain ⟨t, run, cut⟩ := exists_run_of_exec
    (show (exec step (.start 0 { scheme := "wss", rest := "//chain" }) (oneLeaves 5 5)).map
      (cutOff ⟨2⟩) = some true by decide +kernel)
  obtain ⟨emission, member, listening⟩ := List.any_eq_true.mp cut
  cases deed : emission.deed with
  | unsubscribe id method subid ok =>
    simp [deed, claimed _ _ _ t run emission member id method subid ok deed ⟨2⟩] at listening
  | _ => simp [deed] at listening

end MagicRouter.Connection
