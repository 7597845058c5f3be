import MagicRouter.Pubsub.Ledger

/-! Whole runs of a connection: every subscription taken is accounted for as long
as no reconnect leaves a request behind, every reply to a request confirms it, and
neither a request nor a listener is replaced. -/

namespace MagicRouter.Connection

open Library

/-- Subscriptions sent and replies received on the current socket. -/
structure Socket where
  sent : List Subscription
  replied : List RequestId

/-- The request a frame replies to. -/
def replyTo (frame : Json) : Option RequestId :=
  ((frame.get "id").bind Json.asU64).map RequestId.mk

def Socket.next (socket : Socket) : Deed → Socket
  | .subscribe sub true => {
      sent := sub :: socket.sent
      replied := socket.replied.filter (· ≠ sub.requestId) }
  | .receive (some frame) => { socket with replied := (replyTo frame).toList ++ socket.replied }
  | .reconnect true => { sent := [], replied := [] }
  | _ => socket

def Socket.of (log : List Emission) : Socket :=
  log.foldl (fun socket emission => socket.next emission.deed) { sent := [], replied := [] }

/-- Subscriptions sent on the current socket and without a reply. -/
def awaiting (s : Session) : Multiset Listing :=
  Store.tally (fun request sub =>
    if sub ∈ (Socket.of s.log).sent ∧ request ∉ (Socket.of s.log).replied then {.of sub} else 0)
    s.connection.inflights

/-- Every subscription taken is in exactly one of the situations that end or
continue it. -/
def Accounted (s : Session) : Prop :=
  gather Deed.taken s.log = awaiting s + listening s.connection + gather Deed.released s.log +
    gather Deed.foundClosed s.log + gather Deed.disconnected s.log

instance (s : Session) : Decidable (Accounted s) :=
  inferInstanceAs (Decidable (_ = _))

/-- Whether the reconnection of this iteration would succeed. -/
def Event.reconnects (event : Event) : Prop :=
  (List.range (MAX_RECONNECT_ATTEMPTS + 1)).any event.connects = true

/-- The reply confirms its request, under an id its subscriber does not listen to yet. -/
def Confirms (c : WebsocketConnection) (frame : Json) (closed : SubscriberId → Bool) : Prop :=
  ∀ id sub, replyTo frame = some id → c.inflights.lookup id = some sub →
    ∃ result, WebsocketMessage.deserialize frame = some (.subscribed { id, result }) ∧
      (closed sub.subscriberId = true ∨ c.listener result sub.subscriberId = none)

/-- What an iteration may meet for its subscriptions to stay accounted for. -/
def Orderly (s : Session) (event : Event) : Prop :=
  match event.input with
  | .received (.data (some frame)) => Confirms s.connection frame event.closed
  | .received _ => True
  | .request sub => s.connection.inflights.lookup sub.requestId = none ∧
      (event.sent = true ∨ ¬ event.reconnects)
  | .unsubscription u _ =>
      (s.connection.requestToSubs.lookup u.requestId).bind s.connection.subscriptions.lookup = none ∨
        event.sent = true ∨ ¬ event.reconnects ∨ s.connection.inflights = ∅
  | .ping => event.sent = true ∨ ¬ event.reconnects ∨ s.connection.inflights = ∅

/-- The invariant of orderly runs. -/
structure Balanced (s : Session) : Prop where
  keyed : ∀ request sub, s.connection.inflights.lookup request = some sub → sub.requestId = request
  current : ∀ request sub, s.connection.inflights.lookup request = some sub →
    sub ∈ (Socket.of s.log).sent ∧ request ∉ (Socket.of s.log).replied
  balance : gather Deed.taken s.log =
    inflight s.connection + listening s.connection + gather Deed.ended s.log

variable {c : WebsocketConnection} {event : Event} {s t : Session} {events : List Event}

theorem deserialize_subscribed {frame : Json} {s : SubscriptionResult}
    (decoded : WebsocketMessage.deserialize frame = some (.subscribed s)) :
    replyTo frame = some s.id := by
  unfold WebsocketMessage.deserialize at decoded
  split at decoded
  · split at decoded
    · simp only [Option.bind_eq_bind, Option.bind_eq_some_iff] at decoded
      obtain ⟨id, found, result, _, same⟩ := decoded
      cases same
      simp [replyTo, Option.bind_eq_some_iff, found]
    · simp only [Option.bind_eq_bind, Option.bind_eq_some_iff] at decoded
      obtain ⟨_, _, same⟩ := decoded
      cases same
  · simp only [Option.bind_eq_bind, Option.bind_eq_some_iff] at decoded
    obtain ⟨_, _, _, _, _, _, same⟩ := decoded
    cases same

theorem Balanced.accounted (balanced : Balanced s) : Accounted s := by
  have all : awaiting s = inflight s.connection := by
    apply Store.tally_congr
    intro request sub found
    rw [if_pos (balanced.current request sub found)]
  unfold Accounted
  rw [all, balanced.balance, gather_ended]
  abel

theorem Socket.of_append (log new : List Emission) : Socket.of (log ++ new) =
    new.foldl (fun socket emission => socket.next emission.deed) (Socket.of log) := by
  simp [Socket.of]

/-- Deeds that neither send a subscription, receive a frame nor reconnect. -/
theorem Socket.of_append_idle {log new : List Emission}
    (idle : ∀ emission ∈ new, ∀ socket, Socket.next socket emission.deed = socket) :
    Socket.of (log ++ new) = Socket.of log := by
  rw [Socket.of_append]
  generalize Socket.of log = socket
  induction new with
  | nil => rfl
  | cons emission rest ih =>
    rw [List.foldl_cons, idle emission List.mem_cons_self]
    exact ih fun other member => idle other (List.mem_cons_of_mem _ member)

theorem afterSend_inflights : (c.afterSend event).1.inflights = c.inflights := by
  unfold WebsocketConnection.afterSend
  split <;> rfl

/-- The loop goes on after a failed send only once the socket is replaced. -/
theorem afterSend_running (running : (c.afterSend event).1.running = true) :
    event.sent = true ∨ event.reconnects := by
  unfold WebsocketConnection.afterSend at running
  split at running
  · exact .inl ‹_›
  · exact .inr running

/-- Receiving a frame takes out at most the request it confirms. -/
theorem receive_inflights {frame : Json} {closed : SubscriberId → Bool} {request : RequestId}
    {sub : Subscription}
    (found : (c.receive (some frame) closed).1.inflights.lookup request = some sub) :
    c.inflights.lookup request = some sub ∧
      ∀ s, WebsocketMessage.deserialize frame = some (.subscribed s) → request ≠ s.id := by
  unfold WebsocketConnection.receive at found
  rw [Option.bind_some] at found
  split at found
  · exact ⟨found, by simp [*]⟩
  · refine ⟨?_, by simp [*]⟩
    unfold WebsocketConnection.notify at found
    split at found <;> exact found
  · rename_i confirmed decoded
    have erased : (c.inflights.erase confirmed.id).lookup request = some sub := by
      unfold WebsocketConnection.confirm at found
      split at found
      · rwa [Store.erase_of_vacant ‹_›]
      · dsimp only at found
        split at found <;> exact found
    rw [Store.lookup_erase_if] at erased
    split at erased
    · cases erased
    · refine ⟨erased, fun s same => ?_⟩
      cases decoded.symm.trans same
      assumption
  · exact ⟨found, by simp [*]⟩

theorem unsubscribe_inflights (u : Unsubscription) (id : RequestId) :
    (c.unsubscribe u id event).1.inflights = c.inflights := by
  unfold WebsocketConnection.unsubscribe
  split
  · rfl
  · split
    · rfl
    · exact afterSend_inflights

theorem handle_conserves (orderly : Orderly s event)
    (keyed : ∀ request sub, s.connection.inflights.lookup request = some sub →
      sub.requestId = request) :
    Conserves s.connection (s.connection.handle event).2 (s.connection.handle event).1 := by
  unfold Orderly at orderly
  unfold WebsocketConnection.handle
  split
  · simp [Conserves]
  · rename_i frame input
    refine Conserves.cons ?_ rfl rfl
    unfold WebsocketConnection.receive
    split
    · simp [Conserves]
    · exact notify_conserves _ _
    · rename_i confirmed decoded
      obtain ⟨id, result⟩ := confirmed
      obtain ⟨value, rfl, decoded⟩ := Option.bind_eq_some_iff.mp decoded
      rw [input] at orderly
      apply confirm_conserves _ _ keyed
      intro sub found
      obtain ⟨_, decoded', fresh⟩ := orderly _ sub (deserialize_subscribed decoded) found
      cases decoded.symm.trans decoded'
      exact fresh
    · simp [Conserves]
  · exact unsubscribe_conserves _ _
  · rename_i sub input
    rw [input] at orderly
    exact subscribe_conserves sub orderly.1
  · exact afterSend_conserves.cons rfl rfl

theorem Balanced.balance_step (balanced : Balanced s) (orderly : Orderly s event)
    (fired : step s event = some t) : gather Deed.taken t.log =
      inflight t.connection + listening t.connection + gather Deed.ended t.log := by
  obtain ⟨_, connection, log⟩ := step_eq_some fired
  have conserved := handle_conserves orderly balanced.keyed
  rw [connection, log, gather_append, gather_append, balanced.balance]
  calc _ = inflight s.connection + listening s.connection +
          gather Deed.taken (s.connection.handle event).2 + gather Deed.ended s.log := by abel
    _ = _ := by
      rw [conserved]
      abel

theorem receive_idle {frame : Option Json} {closed : SubscriberId → Bool} {emission : Emission}
    (member : emission ∈ (c.receive frame closed).2) (socket : Socket) :
    socket.next emission.deed = socket := by
  obtain ⟨_, _, _, _, delivered⟩ := receive_delivers member
  rw [delivered]
  rfl

theorem unsubscribe_running (u : Unsubscription) (id : RequestId)
    (running : (c.unsubscribe u id event).1.running = true) :
    (c.requestToSubs.lookup u.requestId).bind c.subscriptions.lookup = none ∨ event.sent = true ∨
      event.reconnects := by
  unfold WebsocketConnection.unsubscribe at running
  split at running
  · exact .inl (by simp [*])
  · split at running
    · exact .inl (by simp [*])
    · exact .inr (afterSend_running running)

theorem unsubscribe_idle {u : Unsubscription} {id : RequestId} {emission : Emission}
    (sent : event.sent = true) (member : emission ∈ (c.unsubscribe u id event).2)
    (socket : Socket) : socket.next emission.deed = socket := by
  unfold WebsocketConnection.unsubscribe at member
  split at member
  · cases member
  · split at member
    · cases member
    · simp only [WebsocketConnection.afterSend, sent, if_true, List.mem_append, List.mem_map,
        List.mem_singleton] at member
      rcases member with ⟨_, _, rfl⟩ | rfl <;> rfl

namespace Balanced

variable {request : RequestId} {sub : Subscription}

theorem received_step {frame : Json} (balanced : Balanced s)
    (confirms : Confirms s.connection frame event.closed)
    (input : event.input = .received (.data (some frame)))
    (fired : step s event = some t) (found : t.connection.inflights.lookup request = some sub) :
    s.connection.inflights.lookup request = some sub ∧ sub ∈ (Socket.of t.log).sent ∧
      request ∉ (Socket.of t.log).replied := by
  obtain ⟨_, connection, log⟩ := step_eq_some fired
  have handled : s.connection.handle event =
      ((s.connection.receive (some frame) event.closed).1,
        { moment := s.connection, deed := .receive (some frame) } ::
          (s.connection.receive (some frame) event.closed).2) := by
    simp [WebsocketConnection.handle, input]
  rw [connection, handled] at found
  obtain ⟨before, unconfirmed⟩ := receive_inflights found
  obtain ⟨sent, unreplied⟩ := balanced.current request sub before
  have socket : Socket.of t.log = (Socket.of s.log).next (.receive (some frame)) := by
    rw [log, handled, List.append_cons, Socket.of_append_idle fun emission member socket =>
      receive_idle member socket, Socket.of_append]
    rfl
  rw [socket]
  refine ⟨before, sent, ?_⟩
  simp only [Socket.next, List.mem_append, Option.mem_toList, not_or]
  refine ⟨fun replied => ?_, unreplied⟩
  obtain ⟨result, decoded, _⟩ := confirms request sub replied before
  exact unconfirmed _ decoded rfl

/-- A request that is taken is sent on the current socket, or the loop ends. -/
theorem request_step {taken : Subscription} (balanced : Balanced s)
    (sent : event.sent = true) (input : event.input = .request taken)
    (fired : step s event = some t) (found : t.connection.inflights.lookup request = some sub) :
    (request = taken.requestId ∧ sub = taken ∨ s.connection.inflights.lookup request = some sub) ∧
      sub ∈ (Socket.of t.log).sent ∧ request ∉ (Socket.of t.log).replied := by
  obtain ⟨_, connection, log⟩ := step_eq_some fired
  have handled : s.connection.handle event =
      ({ s.connection with inflights := s.connection.inflights.insert taken.requestId taken },
        [{ moment := s.connection, deed := .take taken },
          { moment := { s.connection with
              inflights := s.connection.inflights.insert taken.requestId taken }
            deed := .subscribe taken true }]) := by
    simp [WebsocketConnection.handle, input, WebsocketConnection.subscribe,
      WebsocketConnection.afterSend, sent]
  have socket : Socket.of t.log = (Socket.of s.log).next (.subscribe taken true) := by
    rw [log, handled, Socket.of_append]
    rfl
  rw [connection, handled, Store.lookup_insert_if] at found
  rw [socket]
  split at found
  · rename_i same
    cases found
    exact ⟨.inl ⟨same, rfl⟩, by simp [Socket.next], by simp [Socket.next, same]⟩
  · obtain ⟨sent, unreplied⟩ := balanced.current request sub found
    exact ⟨.inr found, by simp [Socket.next, sent], by simp [Socket.next, unreplied]⟩

/-- Iterations that leave the requests and the socket alone. -/
theorem idle_step (balanced : Balanced s) (fired : step s event = some t)
    (same : (s.connection.handle event).1.inflights = s.connection.inflights)
    (idle : s.connection.inflights = ∅ ∨ ∀ emission ∈ (s.connection.handle event).2, ∀ socket,
      Socket.next socket emission.deed = socket)
    (found : t.connection.inflights.lookup request = some sub) :
    s.connection.inflights.lookup request = some sub ∧ sub ∈ (Socket.of t.log).sent ∧
      request ∉ (Socket.of t.log).replied := by
  obtain ⟨_, connection, log⟩ := step_eq_some fired
  rw [connection, same] at found
  rcases idle with none | idle
  · simp [none] at found
  · rw [log, Socket.of_append_idle idle]
    exact ⟨found, balanced.current request sub found⟩

/-- An unsubscription leaves the requests alone, unless the socket is replaced with
none of them unanswered. -/
theorem unsubscription_step {u : Unsubscription} {id : RequestId} (balanced : Balanced s)
    (input : event.input = .unsubscription u id)
    (orderly : (s.connection.requestToSubs.lookup u.requestId).bind
        s.connection.subscriptions.lookup = none ∨
      event.sent = true ∨ ¬ event.reconnects ∨ s.connection.inflights = ∅)
    (fired : step s event = some t) (running : t.connection.running = true)
    (found : t.connection.inflights.lookup request = some sub) :
    s.connection.inflights.lookup request = some sub ∧ sub ∈ (Socket.of t.log).sent ∧
      request ∉ (Socket.of t.log).replied := by
  have connection := (step_eq_some fired).2.1
  have handled : s.connection.handle event = s.connection.unsubscribe u id event := by
    simp [WebsocketConnection.handle, input]
  rw [connection, handled] at running
  refine balanced.idle_step fired (handled ▸ unsubscribe_inflights u id) ?_ found
  rw [handled]
  have unknown (none : (s.connection.requestToSubs.lookup u.requestId).bind
      s.connection.subscriptions.lookup = none) :
      ∀ emission ∈ (s.connection.unsubscribe u id event).2, ∀ socket,
        Socket.next socket emission.deed = socket := by
    simp [unsubscribe_unknown u id none]
  rcases orderly with none | sent | lost | empty
  · exact .inr (unknown none)
  · exact .inr fun emission member => unsubscribe_idle sent member
  · rcases unsubscribe_running u id running with none | sent | reconnects
    · exact .inr (unknown none)
    · exact .inr fun emission member => unsubscribe_idle sent member
    · exact absurd reconnects lost
  · exact .inl empty

theorem ping_step (balanced : Balanced s) (input : event.input = .ping)
    (orderly : event.sent = true ∨ ¬ event.reconnects ∨ s.connection.inflights = ∅)
    (fired : step s event = some t) (running : t.connection.running = true)
    (found : t.connection.inflights.lookup request = some sub) :
    s.connection.inflights.lookup request = some sub ∧ sub ∈ (Socket.of t.log).sent ∧
      request ∉ (Socket.of t.log).replied := by
  have connection := (step_eq_some fired).2.1
  have handled : s.connection.handle event = ((s.connection.afterSend event).1,
      { moment := s.connection, deed := .ping event.sent } ::
        (s.connection.afterSend event).2) := by
    simp [WebsocketConnection.handle, input]
  rw [connection, handled] at running
  refine balanced.idle_step fired (handled ▸ afterSend_inflights) ?_ found
  rw [handled]
  have quiet (sent : event.sent = true) : ∀ emission ∈
      { moment := s.connection, deed := .ping event.sent } :: (s.connection.afterSend event).2,
      ∀ socket, Socket.next socket emission.deed = socket := by
    simp [WebsocketConnection.afterSend, sent, Socket.next]
  rcases orderly with sent | lost | empty
  · exact .inr (quiet sent)
  · exact .inr (quiet ((afterSend_running running).resolve_right lost))
  · exact .inl empty

/-- After an orderly iteration every request inflight was sent on the current
socket and has no reply. -/
theorem inflights_step (balanced : Balanced s) (orderly : Orderly s event)
    (fired : step s event = some t) (running : t.connection.running = true)
    (found : t.connection.inflights.lookup request = some sub) :
    sub.requestId = request ∧ sub ∈ (Socket.of t.log).sent ∧
      request ∉ (Socket.of t.log).replied := by
  have kept (before : s.connection.inflights.lookup request = some sub ∧
      sub ∈ (Socket.of t.log).sent ∧ request ∉ (Socket.of t.log).replied) :
      sub.requestId = request ∧ sub ∈ (Socket.of t.log).sent ∧
        request ∉ (Socket.of t.log).replied :=
    ⟨balanced.keyed request sub before.1, before.2⟩
  unfold Orderly at orderly
  have connection := (step_eq_some fired).2.1
  cases input : event.input with
  | received message =>
    rw [input] at orderly
    cases message with
    | pong =>
      exact kept (balanced.idle_step fired (by simp [WebsocketConnection.handle, input])
        (.inr (by simp [WebsocketConnection.handle, input])) found)
    | data frame =>
      cases frame with
      | none =>
        refine kept (balanced.idle_step fired ?_ (.inr ?_) found)
        · simp [WebsocketConnection.handle, input, WebsocketConnection.receive]
        · simp [WebsocketConnection.handle, input, WebsocketConnection.receive, Socket.next]
      | some frame => exact kept (balanced.received_step orderly input fired found)
  | request taken =>
    rw [input] at orderly
    have sent : event.sent = true := by
      rw [connection] at running
      simp only [WebsocketConnection.handle, input, WebsocketConnection.subscribe] at running
      rcases afterSend_running running with sent | reconnects
      · exact sent
      · exact orderly.2.resolve_right (absurd reconnects)
    obtain ⟨⟨rfl, rfl⟩ | before, rest⟩ := balanced.request_step sent input fired found
    · exact ⟨rfl, rest⟩
    · exact kept ⟨before, rest⟩
  | unsubscription u id =>
    rw [input] at orderly
    exact kept (balanced.unsubscription_step input orderly fired running found)
  | ping =>
    rw [input] at orderly
    exact kept (balanced.ping_step input orderly fired running found)

theorem start (id : Nat) (url : Url) : Balanced (.start id url) where
  keyed _ _ found := by cases found
  current _ _ found := by cases found
  balance := rfl

theorem step (balanced : Balanced s) (orderly : Orderly s event)
    (fired : Connection.step s event = some t) (running : t.connection.running = true) :
    Balanced t where
  keyed _ _ found := (balanced.inflights_step orderly fired running found).1
  current _ _ found := (balanced.inflights_step orderly fired running found).2
  balance := balanced.balance_step orderly fired

end Balanced

/-- In every orderly run, at every point between iterations, each subscription
taken is in exactly one place: unanswered on the current socket, listening,
unsubscribed, found closed, or told of the disconnect. -/
theorem orderly_run_accounts {id : Nat} {url : Url}
    (run : Run (Guarded Orderly (Fires step)) (.start id url) events s)
    (running : s.connection.running = true) : Accounted s := by
  suffices balanced : Balanced s from balanced.accounted
  induction run with
  | nil => exact .start id url
  | snoc _ last ih =>
    obtain ⟨orderly, fired⟩ := last
    exact (ih (step_eq_some fired).1).step orderly fired running

/-- A check that only orderly iterations with a successful send pass. -/
private def calmlyOrderly (s : Session) (event : Event) : Bool :=
  event.sent && match event.input with
    | .received (.data (some frame)) =>
      ((replyTo frame).bind s.connection.inflights.lookup).all fun sub =>
        match WebsocketMessage.deserialize frame with
        | some (.subscribed confirmed) =>
          (s.connection.listener confirmed.result sub.subscriberId).isNone
        | _ => false
    | .request sub => (s.connection.inflights.lookup sub.requestId).isNone
    | _ => true

private theorem calmlyOrderly_sound (s : Session) (event : Event)
    (checked : calmlyOrderly s event = true) : Orderly s event := by
  obtain ⟨sent, checked⟩ := Bool.and_eq_true_iff.mp checked
  unfold Orderly
  split
  · rename_i frame input
    intro id sub replied found
    simp only [input, replied, Option.bind_some, found, Option.all_some] at checked
    split at checked
    · rename_i confirmed decoded
      obtain ⟨id', result⟩ := confirmed
      cases replied.symm.trans (deserialize_subscribed decoded)
      exact ⟨result, decoded, .inr (by simpa using checked)⟩
    · cases checked
  · trivial
  · rename_i sub input
    simp only [input] at checked
    exact ⟨by simpa using checked, .inl sent⟩
  · exact .inr (.inl sent)
  · exact .inl sent

/-- Two subscribers under different ids, one of which leaves, and a request that
is still unanswered. -/
theorem orderly_run_accounts_oneLeaves :
    ∃ s, Run (Guarded Orderly (Fires step)) (.start 0 { scheme := "wss", rest := "//chain" })
        (oneLeaves 5 6 ++ [calm (.request (accountSubscription 3 14))]) s ∧
      (gather Deed.taken s.log).card = 3 ∧ Accounted s := by
  obtain ⟨s, checkedRun, checked⟩ := exists_run_of_exec
    (show (exec (checkedStep calmlyOrderly step) (.start 0 { scheme := "wss", rest := "//chain" })
      (oneLeaves 5 6 ++ [calm (.request (accountSubscription 3 14))])).map (fun s =>
        s.connection.running && decide ((gather Deed.taken s.log).card = 3)) = some true by
      decide +kernel)
  obtain ⟨running, three⟩ := Bool.and_eq_true_iff.mp checked
  have run := checkedRun.guarded_of_checked calmlyOrderly_sound
  exact ⟨s, run, of_decide_eq_true three, orderly_run_accounts run running⟩

/-- A request is sent, the socket fails the next ping, and the connection is
reestablished without the request. -/
def forgottenRequest : List Event :=
  [calm (.request (accountSubscription 1 11)), { calm .ping with sent := false }]

theorem forgottenRequest_unaccounted :
    ¬ ∀ id url events s, Run (Fires step) (.start id url) events s →
      s.connection.running = true → Accounted s := by
  intro claimed
  obtain ⟨s, run, checked⟩ := exists_run_of_exec
    (show (exec step (.start 0 { scheme := "wss", rest := "//chain" }) forgottenRequest).map
      (fun s => s.connection.running && !decide (Accounted s)) = some true by decide +kernel)
  obtain ⟨running, lost⟩ := Bool.and_eq_true_iff.mp checked
  simp [claimed _ _ _ s run running] at lost

end MagicRouter.Connection
