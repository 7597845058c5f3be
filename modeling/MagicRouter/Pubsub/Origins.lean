import MagicRouter.Library.History
import MagicRouter.Pubsub.Bookkeeping

/-! Where the deeds of a connection come from. Whatever a subscriber is sent goes back
to a subscription taken on its behalf, to the frame that confirmed it on the socket in
use, and for a notification to the frame just read. What is cancelled upstream was
confirmed on the socket in use as well. -/

namespace MagicRouter.Connection

open Library

/-- What a connection keeps of a subscription once it is confirmed. -/
def SubscriberHandle.of (sub : Subscription) : SubscriberHandle where
  requestId := sub.requestId
  upstream := sub.upstream
  tx := sub.tx

namespace Deed

def IsDelivery (deed : Deed) : Prop :=
  ∃ subscriber tx message ok, deed = .deliver subscriber tx message ok

/-- The socket is not replaced. -/
def SameSocket (deed : Deed) : Prop :=
  ∀ ok, deed ≠ .reconnect ok

/-- A listener is left where it is: the socket is not replaced, and the listener is
not taken off at its own request. -/
def Keeps (subid : SubscriptionId) (subscriber : SubscriberId) (deed : Deed) : Prop :=
  deed.SameSocket ∧ ∀ handle, deed ≠ .release subid subscriber handle

theorem IsDelivery.keeps {deed : Deed} (delivery : deed.IsDelivery) (subid : SubscriptionId)
    (subscriber : SubscriberId) : deed.Keeps subid subscriber := by
  obtain ⟨_, _, _, _, rfl⟩ := delivery
  exact ⟨nofun, nofun⟩

end Deed

/-- The subscription was taken, and then confirmed under the id by a frame after which
all deeds were of one kind. -/
inductive Granted (Kind : Deed → Prop) (sub : Subscription) (subid : SubscriptionId) :
    List Deed → Prop where
  | intro (asked waited : List Deed) (frame : Json) (taken : .take sub ∈ asked)
      (reads : WebsocketMessage.deserialize frame = some (.subscribed ⟨sub.requestId, subid⟩))
      (kept : ∀ deed ∈ waited, Kind deed) :
      Granted Kind sub subid (asked ++ .receive (some frame) :: waited)

/-- The subscription listens under the id. -/
abbrev Attending (sub : Subscription) (subid : SubscriptionId) : List Deed → Prop :=
  Granted (Deed.Keeps subid sub.subscriberId) sub subid

/-- The subscription was confirmed under the id on the socket in use. -/
abbrev Answered : Subscription → SubscriptionId → List Deed → Prop :=
  Granted Deed.SameSocket

namespace Granted

variable {Kind : Deed → Prop} {sub : Subscription} {subid : SubscriptionId}
variable {past later : List Deed}

theorem append (confirmed : Granted Kind sub subid past) (kept : ∀ deed ∈ later, Kind deed) :
    Granted Kind sub subid (past ++ later) := by
  cases confirmed with
  | intro asked waited frame taken reads before =>
    rw [List.append_assoc, List.cons_append]
    refine .intro asked (waited ++ later) frame taken reads ?_
    intro deed member
    rcases List.mem_append.mp member with earlier | new
    · exact before deed earlier
    · exact kept deed new

theorem here {frame : Json} (taken : .take sub ∈ past)
    (reads : WebsocketMessage.deserialize frame = some (.subscribed ⟨sub.requestId, subid⟩)) :
    Granted Kind sub subid (past ++ [.receive (some frame)]) :=
  .intro past [] frame taken reads nofun

theorem taken (confirmed : Granted Kind sub subid past) : .take sub ∈ past := by
  cases confirmed with
  | intro asked waited frame taken => exact List.mem_append_left _ taken

end Granted

/-- How a message to a subscriber or a cancellation upstream comes about, given all
that was done before it on the connection with the given id. -/
inductive Origin (id : Nat) : List Deed → Deed → Prop where
  /-- the frame just read confirms the subscription -/
  | subscribed (sub : Subscription) (subid : SubscriptionId) (asked : List Deed) (frame : Json)
      (taken : .take sub ∈ asked)
      (reads : WebsocketMessage.deserialize frame = some (.subscribed ⟨sub.requestId, subid⟩)) :
      Origin id (asked ++ [.receive (some frame)]) (.deliver sub.subscriberId sub.tx
        (.subscribed { requestId := sub.requestId, unsub := ⟨id⟩, upstream := sub.upstream }) ok)
  /-- the last frame read is a notification of the id the subscription listens under -/
  | notification (sub : Subscription) (subid : SubscriptionId) (past sent : List Deed)
      (frame payload : Json) (attending : Attending sub subid past)
      (reads : WebsocketMessage.deserialize frame = some (.notification ⟨payload, subid⟩))
      (only : ∀ deed ∈ sent, deed.IsDelivery) :
      Origin id (past ++ .receive (some frame) :: sent) (.deliver sub.subscriberId sub.tx
        (.notification sub.requestId sub.upstream payload) ok)
  | disconnected (sub : Subscription) (subid : SubscriptionId) (attending : Attending sub subid past) :
      Origin id past (.deliver sub.subscriberId sub.tx (.disconnected sub.requestId) ok)
  | unsubscribe (sub : Subscription) (answered : Answered sub subid past) :
      Origin id past (.unsubscribe request method subid ok)
  | receive : Origin id past (.receive frame)
  | take : Origin id past (.take sub)
  | subscribe (taken : .take sub ∈ past) : Origin id past (.subscribe sub ok)
  | ping : Origin id past (.ping ok)
  | release : Origin id past (.release subid subscriber handle)
  | reconnect : Origin id past (.reconnect ok)

/-- A message goes out on the channel of a subscription that was taken before. -/
theorem Origin.taken {id : Nat} {past : List Deed} {subscriber : SubscriberId} {tx : Channel}
    {message : PubsubMessage} {ok : Bool}
    (origin : Origin id past (.deliver subscriber tx message ok)) :
    ∃ sub, .take sub ∈ past ∧ sub.tx = tx := by
  cases origin with
  | subscribed sub subid asked frame taken =>
    exact ⟨sub, List.mem_append_left _ taken, rfl⟩
  | notification sub subid past sent frame payload attending =>
    exact ⟨sub, List.mem_append_left _ attending.taken, rfl⟩
  | disconnected sub subid attending => exact ⟨sub, attending.taken, rfl⟩

theorem Origin.of_notification {id : Nat} {past : List Deed} {subscriber : SubscriberId}
    {tx : Channel} {request : RequestId} {upstream : PubSubUpstreamKind} {payload : Json} {ok : Bool}
    (origin : Origin id past (.deliver subscriber tx (.notification request upstream payload) ok)) :
    ∃ sub subid before sent frame, past = before ++ .receive (some frame) :: sent ∧
      Attending sub subid before ∧
      WebsocketMessage.deserialize frame = some (.notification ⟨payload, subid⟩) ∧
      sub.subscriberId = subscriber ∧ sub.tx = tx ∧ sub.requestId = request ∧
      sub.upstream = upstream := by
  cases origin with
  | notification sub subid before sent frame payload attending reads only =>
    exact ⟨sub, subid, before, sent, frame, rfl, attending, reads, rfl, rfl, rfl, rfl⟩

theorem Origin.of_subscribed {id : Nat} {past : List Deed} {subscriber : SubscriberId}
    {tx : Channel} {handle : SubscriptionHandle} {ok : Bool}
    (origin : Origin id past (.deliver subscriber tx (.subscribed handle) ok)) :
    ∃ sub, .take sub ∈ past ∧ sub.tx = tx ∧ sub.requestId = handle.requestId ∧
      handle.unsub = ⟨id⟩ := by
  cases origin with
  | subscribed sub subid asked frame taken =>
    exact ⟨sub, List.mem_append_left _ taken, rfl, rfl, rfl⟩

/-- The maps of a connection go back to what it has done. -/
structure Traced (c : WebsocketConnection) (past : List Deed) : Prop where
  inflight : ∀ request sub, c.inflights.lookup request = some sub →
    sub.requestId = request ∧ .take sub ∈ past
  listening : ∀ subid subscriber handle, c.listener subid subscriber = some handle →
    ∃ sub, Attending sub subid past ∧ sub.subscriberId = subscriber ∧ handle = .of sub
  indexed : ∀ request subid, c.requestToSubs.lookup request = some subid →
    ∃ sub, sub.requestId = request ∧ Answered sub subid past

variable {c c' : WebsocketConnection} {past deeds : List Deed} {event : Event}

namespace Traced

/-- Nothing but fewer entries, after deeds that spare what is left. -/
theorem shrink (traced : Traced c past)
    (inflights : ∀ request sub, c'.inflights.lookup request = some sub →
      c.inflights.lookup request = some sub)
    (listeners : ∀ subid subscriber handle, c'.listener subid subscriber = some handle →
      c.listener subid subscriber = some handle ∧ ∀ deed ∈ deeds, deed.Keeps subid subscriber)
    (index : ∀ request subid, c'.requestToSubs.lookup request = some subid →
      c.requestToSubs.lookup request = some subid ∧ ∀ deed ∈ deeds, deed.SameSocket) :
    Traced c' (past ++ deeds) where
  inflight request sub found := by
    obtain ⟨keyed, taken⟩ := traced.inflight request sub (inflights request sub found)
    exact ⟨keyed, List.mem_append_left _ taken⟩
  listening subid subscriber handle found := by
    obtain ⟨present, kept⟩ := listeners subid subscriber handle found
    obtain ⟨sub, attending, rfl, rfl⟩ := traced.listening subid subscriber handle present
    exact ⟨sub, attending.append kept, rfl, rfl⟩
  indexed request subid found := by
    obtain ⟨present, kept⟩ := index request subid found
    obtain ⟨sub, rfl, answered⟩ := traced.indexed request subid present
    exact ⟨sub, rfl, answered.append kept⟩

/-- Deeds that change no map. -/
theorem idle (traced : Traced c past)
    (kept : ∀ deed ∈ deeds, ∀ subid subscriber, deed.Keeps subid subscriber) :
    Traced c (past ++ deeds) := by
  refine traced.shrink (fun _ _ found => found) ?_ ?_
  · intro subid subscriber handle found
    exact ⟨found, fun deed member => kept deed member subid subscriber⟩
  · intro request subid found
    exact ⟨found, fun deed member => (kept deed member subid ⟨0⟩).1⟩

end Traced

/-- What an iteration makes of a connection is traced, and what it does has its origin. -/
def Sourced (id : Nat) (past : List Deed) (next : WebsocketConnection × List Emission) : Prop :=
  Traced next.1 (past ++ next.2.map Emission.deed) ∧
    Grounded (Origin id) past (next.2.map Emission.deed)

namespace Sourced

variable {id : Nat} {next : WebsocketConnection × List Emission}

/-- A first deed, after which the rest has its source. -/
theorem cons {emission : Emission} (origin : Origin id past emission.deed)
    (rest : Sourced id (past ++ [emission.deed]) next) :
    Sourced id past (next.1, emission :: next.2) := by
  obtain ⟨traced, grounded⟩ := rest
  rw [List.append_assoc] at traced
  exact ⟨traced, grounded.cons origin⟩

theorem idle (traced : Traced c past) : Sourced id past (c, []) := by
  refine ⟨?_, .nil⟩
  simpa using traced

end Sourced

theorem notify_maps (params : NotificationParams) (closed : SubscriberId → Bool) :
    (c.notify params closed).1.inflights = c.inflights ∧
      (c.notify params closed).1.requestToSubs = c.requestToSubs := by
  unfold WebsocketConnection.notify
  split
  · exact ⟨rfl, rfl⟩
  · exact ⟨rfl, rfl⟩

/-- A notification is sent to listeners only, each under its own handle. -/
theorem notify_addressee {params : NotificationParams} {closed : SubscriberId → Bool}
    {emission : Emission} (emitted : emission ∈ (c.notify params closed).2) :
    ∃ subscriber handle, c.listener params.subscription subscriber = some handle ∧
      emission.deed = .deliver subscriber handle.tx
        (.notification handle.requestId handle.upstream params.result) (!closed subscriber) := by
  unfold WebsocketConnection.notify at emitted
  split at emitted
  · cases emitted
  · rename_i listeners present
    obtain ⟨⟨subscriber, handle⟩, listed, rfl⟩ := List.mem_map.mp emitted
    refine ⟨subscriber, handle, ?_, rfl⟩
    rw [WebsocketConnection.listener_of_lookup present]
    exact Store.mem_entries_iff.mp listed

/-- Reading a frame changes no map by itself. -/
theorem Traced.read (traced : Traced c past) (frame : Option Json) :
    Traced c (past ++ [.receive frame]) := by
  apply traced.idle
  intro deed member subid subscriber
  rw [List.mem_singleton.mp member]
  exact ⟨nofun, nofun⟩

/-- A notification goes to the listeners of its subscription. -/
theorem notify_sourced {params : NotificationParams} {frame : Json} {closed : SubscriberId → Bool}
    (traced : Traced c past)
    (reads : WebsocketMessage.deserialize frame = some (.notification params)) :
    Sourced c.id (past ++ [.receive (some frame)]) (c.notify params closed) := by
  have only : ∀ deed ∈ (c.notify params closed).2.map Emission.deed, deed.IsDelivery := by
    intro deed member
    obtain ⟨emission, sent, rfl⟩ := List.mem_map.mp member
    obtain ⟨_, _, _, same⟩ := notify_addressee sent
    exact ⟨_, _, _, _, same⟩
  constructor
  · refine (traced.read (some frame)).shrink ?_ ?_ ?_
    · intro request sub found
      exact (notify_maps params closed).1 ▸ found
    · intro subid subscriber handle found
      rw [WebsocketConnection.listener_notify] at found
      split at found
      · cases found
      · exact ⟨found, fun deed member => (only deed member).keeps subid subscriber⟩
    · intro request subid found
      refine ⟨(notify_maps params closed).2 ▸ found, ?_⟩
      intro deed member
      exact ((only deed member).keeps subid ⟨0⟩).1
  · refine Grounded.of_kind only ?_
    intro sent deliveries deed member
    obtain ⟨emission, emitted, rfl⟩ := List.mem_map.mp member
    obtain ⟨subscriber, handle, listening, same⟩ := notify_addressee emitted
    obtain ⟨sub, attending, rfl, rfl⟩ := traced.listening _ _ _ listening
    rw [same, List.append_assoc, List.singleton_append]
    exact .notification sub params.subscription past sent frame params.result attending reads
      deliveries

namespace Traced

variable {sub : Subscription} {subid : SubscriptionId} {deed : Deed}

theorem deliver (traced : Traced c past) (delivery : deed.IsDelivery) :
    Traced c (past ++ [deed]) := by
  apply traced.idle
  intro other member subid subscriber
  rw [List.mem_singleton.mp member]
  exact delivery.keeps subid subscriber

/-- A confirmed request is no longer inflight and is found in the index. -/
theorem answer {s : SubscriptionResult} {frame : Json} (traced : Traced c past)
    (taken : .take sub ∈ past) (keyed : sub.requestId = s.id)
    (reads : WebsocketMessage.deserialize frame = some (.subscribed s)) :
    Traced { c with
      inflights := c.inflights.erase s.id
      requestToSubs := c.requestToSubs.insert s.id s.result } (past ++ [.receive (some frame)]) where
  inflight request other found := by
    rw [Store.lookup_erase_if] at found
    split at found
    · cases found
    · exact (traced.read (some frame)).inflight request other found
  listening := (traced.read (some frame)).listening
  indexed request subid found := by
    rw [Store.lookup_insert_if] at found
    split at found
    · rename_i same
      cases found
      refine ⟨sub, keyed.trans same.symm, .here taken ?_⟩
      rw [reads, keyed]
    · exact (traced.read (some frame)).indexed request subid found

theorem register (traced : Traced c past) (attending : Attending sub subid past) :
    Traced (c.register subid sub.subscriberId (.of sub)) past where
  inflight := traced.inflight
  listening other subscriber handle found := by
    rw [WebsocketConnection.listener_register] at found
    split at found
    · rename_i same
      obtain ⟨rfl, rfl⟩ := same
      cases found
      exact ⟨sub, attending, rfl, rfl⟩
    · exact traced.listening other subscriber handle found
  indexed := traced.indexed

/-- A request is inflight once it is taken. -/
theorem request (traced : Traced c past) (taken : .take sub ∈ past) :
    Traced { c with inflights := c.inflights.insert sub.requestId sub } past where
  inflight request other found := by
    rw [Store.lookup_insert_if] at found
    split at found
    · rename_i same
      cases found
      exact ⟨same.symm, taken⟩
    · exact traced.inflight request other found
  listening := traced.listening
  indexed := traced.indexed

end Traced

/-- A confirmation moves its subscription from the inflight requests to the index and,
if its channel is open, to the listeners. -/
theorem confirm_sourced {s : SubscriptionResult} {frame : Json} {closed : SubscriberId → Bool}
    (traced : Traced c past)
    (reads : WebsocketMessage.deserialize frame = some (.subscribed s)) :
    Sourced c.id (past ++ [.receive (some frame)]) (c.confirm s closed) := by
  unfold WebsocketConnection.confirm
  split
  · exact .idle (traced.read (some frame))
  · rename_i sub found
    obtain ⟨keyed, taken⟩ := traced.inflight _ _ found
    have answers : WebsocketMessage.deserialize frame =
        some (.subscribed ⟨sub.requestId, s.result⟩) := by rw [reads, keyed]
    have attending : Attending sub s.result (past ++ [.receive (some frame)]) := .here taken answers
    have grounded (ok : Bool) : Grounded (Origin c.id) (past ++ [.receive (some frame)])
        [.deliver sub.subscriberId sub.tx (.subscribed
          { requestId := s.id, unsub := ⟨c.id⟩, upstream := sub.upstream }) ok] := by
      refine Grounded.cons ?_ .nil
      rw [← keyed]
      exact .subscribed sub s.result past frame taken answers
    have answered := traced.answer taken keyed reads
    dsimp only
    split
    · exact ⟨answered.deliver ⟨_, _, _, _, rfl⟩, grounded _⟩
    · refine ⟨(answered.deliver ⟨_, _, _, _, rfl⟩).register (attending.append ?_), grounded _⟩
      intro deed member
      rw [List.mem_singleton.mp member]
      exact Deed.IsDelivery.keeps ⟨_, _, _, _, rfl⟩ s.result sub.subscriberId

/-- The listeners a connection takes leave of are its own. -/
theorem farewells_addressee {deed : Deed} (member : deed ∈ c.farewells) :
    ∃ subid subscriber handle, c.listener subid subscriber = some handle ∧
      deed = .deliver subscriber handle.tx (.disconnected handle.requestId) true := by
  obtain ⟨⟨subid, listeners⟩, entry, member⟩ := List.mem_flatMap.mp member
  obtain ⟨⟨subscriber, handle⟩, listed, rfl⟩ := List.mem_map.mp member
  refine ⟨subid, subscriber, handle, ?_, rfl⟩
  rw [WebsocketConnection.listener_of_lookup (Store.mem_entries_iff.mp entry)]
  exact Store.mem_entries_iff.mp listed

/-- Reestablishing leaves nothing but the inflight requests. -/
theorem reestablish_sourced {id : Nat} {connects : Nat → Bool} (traced : Traced c past) :
    Sourced id past (c.reestablish connects) := by
  have silent (subid : SubscriptionId) (subscriber : SubscriberId) :
      (c.reestablish connects).1.listener subid subscriber = none := rfl
  have deeds : (c.reestablish connects).2.map Emission.deed =
      c.farewells ++ [.reconnect (c.reestablish connects).1.running] := by
    simp [WebsocketConnection.reestablish, Function.comp_def]
  have only : ∀ deed ∈ c.farewells, deed.IsDelivery := by
    intro deed member
    obtain ⟨_, _, _, _, same⟩ := farewells_addressee member
    exact ⟨_, _, _, _, same⟩
  constructor
  · refine traced.shrink (fun _ _ found => found) ?_ ?_
    · intro subid subscriber handle found
      cases (silent subid subscriber).symm.trans found
    · intro request subid found
      cases found
  · rw [deeds]
    refine Grounded.append (Grounded.of_kind only ?_) (.cons .reconnect .nil)
    intro sent deliveries deed member
    obtain ⟨subid, subscriber, handle, listening, rfl⟩ := farewells_addressee member
    obtain ⟨sub, attending, rfl, rfl⟩ := traced.listening _ _ _ listening
    refine .disconnected sub subid (attending.append ?_)
    intro deed member
    exact (deliveries deed member).keeps subid sub.subscriberId

theorem afterSend_sourced {id : Nat} (traced : Traced c past) :
    Sourced id past (c.afterSend event) := by
  unfold WebsocketConnection.afterSend
  split
  · exact .idle traced
  · exact reestablish_sourced traced

/-- A listener is taken off, with the deed that says so. -/
theorem Traced.release {subid : SubscriptionId} {subscribers : Listeners} {deed : Deed}
    (traced : Traced c past) (leaving : SubscriberId)
    (present : c.subscriptions.lookup subid = some subscribers)
    (released : ∀ other subscriber, ¬ (other = subid ∧ subscriber = leaving) →
      deed.Keeps other subscriber) (same : deed.SameSocket) :
    Traced (c.setListeners subid (subscribers.erase leaving)) (past ++ [deed]) := by
  refine traced.shrink (fun _ _ found => found) ?_ ?_
  · intro other subscriber handle found
    rw [WebsocketConnection.listener_release leaving present] at found
    split at found
    · cases found
    · rename_i elsewhere
      refine ⟨found, ?_⟩
      intro deed member
      rw [List.mem_singleton.mp member]
      exact released other subscriber elsewhere
  · intro request other found
    refine ⟨found, ?_⟩
    intro deed member
    rw [List.mem_singleton.mp member]
    exact same

/-- An unsubscription cancels what the index says was confirmed on this socket. -/
theorem unsubscribe_sourced {u : Unsubscription} {request : RequestId} (traced : Traced c past) :
    Sourced c.id past (c.unsubscribe u request event) := by
  unfold WebsocketConnection.unsubscribe
  split
  · exact .idle traced
  · rename_i subid requested
    obtain ⟨sub, _, answered⟩ := traced.indexed _ _ requested
    split
    · exact .idle traced
    · rename_i subscribers present
      cases subscribers.lookup u.subscriberId with
      | none =>
        refine .cons (.unsubscribe sub answered) (afterSend_sourced ?_)
        exact traced.release u.subscriberId present (fun _ _ _ => ⟨nofun, nofun⟩) nofun
      | some handle =>
        have others (other : SubscriptionId) (subscriber : SubscriberId)
            (elsewhere : ¬ (other = subid ∧ subscriber = u.subscriberId)) :
            Deed.Keeps other subscriber (.release subid u.subscriberId handle) := by
          refine ⟨nofun, ?_⟩
          rintro _ ⟨⟩
          exact elsewhere ⟨rfl, rfl⟩
        refine .cons .release (.cons (.unsubscribe sub (answered.append ?_)) (afterSend_sourced ?_))
        · intro deed member
          rw [List.mem_singleton.mp member]
          exact nofun
        · refine (traced.release u.subscriberId present others nofun).idle ?_
          intro deed member _ _
          rw [List.mem_singleton.mp member]
          exact ⟨nofun, nofun⟩

/-- A request is taken, and then sent. -/
theorem subscribe_sourced {id : Nat} {sub : Subscription} (traced : Traced c past) :
    Sourced id past (c.subscribe sub event) := by
  have kept : ∀ deed ∈ [Deed.take sub, .subscribe sub event.sent], ∀ subid subscriber,
      Deed.Keeps subid subscriber deed := by
    simp [Deed.Keeps, Deed.SameSocket]
  refine .cons .take (.cons (.subscribe (by simp)) (afterSend_sourced ?_))
  rw [List.append_assoc]
  exact (traced.idle kept).request (by simp)

/-- Every iteration keeps the maps traced, and what it does has its origin. -/
theorem handle_sourced (traced : Traced c past) : Sourced c.id past (c.handle event) := by
  unfold WebsocketConnection.handle
  split
  · exact .idle traced
  · rename_i frame _
    refine .cons .receive ?_
    unfold WebsocketConnection.receive
    split
    · exact .idle (traced.read frame)
    · rename_i params read
      obtain ⟨json, rfl, reads⟩ := Option.bind_eq_some_iff.mp read
      exact notify_sourced traced reads
    · rename_i s read
      obtain ⟨json, rfl, reads⟩ := Option.bind_eq_some_iff.mp read
      exact confirm_sourced traced reads
    · exact .idle (traced.read frame)
  · exact unsubscribe_sourced traced
  · exact subscribe_sourced traced
  · refine .cons .ping (afterSend_sourced ?_)
    apply traced.idle
    simp [Deed.Keeps, Deed.SameSocket]

variable {s : Session} {events : List Event}

theorem Traced.start (id : Nat) (url : Url) : Traced (Session.start id url).connection [] where
  inflight := nofun
  listening := nofun
  indexed := nofun

theorem afterSend_identity :
    (c.afterSend event).1.id = c.id ∧ (c.afterSend event).1.url = c.url := by
  unfold WebsocketConnection.afterSend
  split
  · exact ⟨rfl, rfl⟩
  · exact ⟨rfl, rfl⟩

theorem receive_identity (frame : Option Json) (closed : SubscriberId → Bool) :
    (c.receive frame closed).1.id = c.id ∧ (c.receive frame closed).1.url = c.url := by
  unfold WebsocketConnection.receive
  split
  · exact ⟨rfl, rfl⟩
  · unfold WebsocketConnection.notify
    split
    · exact ⟨rfl, rfl⟩
    · exact ⟨rfl, rfl⟩
  · unfold WebsocketConnection.confirm
    split
    · exact ⟨rfl, rfl⟩
    · dsimp only
      split
      · exact ⟨rfl, rfl⟩
      · exact ⟨rfl, rfl⟩
  · exact ⟨rfl, rfl⟩

/-- A connection keeps its id and its URL. -/
theorem handle_identity : (c.handle event).1.id = c.id ∧ (c.handle event).1.url = c.url := by
  unfold WebsocketConnection.handle
  split
  · exact ⟨rfl, rfl⟩
  · exact receive_identity _ _
  · unfold WebsocketConnection.unsubscribe
    split
    · exact ⟨rfl, rfl⟩
    · split
      · exact ⟨rfl, rfl⟩
      · exact afterSend_identity
  · exact afterSend_identity
  · exact afterSend_identity

/-- The maps and the log of a connection at any point of its life. -/
theorem sourced_run {id : Nat} {url : Url} (run : Run (Fires step) (.start id url) events s) :
    s.connection.id = id ∧ s.connection.url = url ∧ Traced s.connection (s.log.map Emission.deed) ∧
      Grounded (Origin id) [] (s.log.map Emission.deed) := by
  induction run with
  | nil => exact ⟨rfl, rfl, .start id url, .nil⟩
  | snoc _ last ih =>
    obtain ⟨same, address, traced, grounded⟩ := ih
    obtain ⟨_, connection, log⟩ := step_eq_some last
    obtain ⟨kept, new⟩ := handle_sourced traced
    rw [connection, log, List.map_append]
    exact ⟨handle_identity.1.trans same, handle_identity.2.trans address, kept,
      grounded.append (same ▸ new)⟩

end MagicRouter.Connection
