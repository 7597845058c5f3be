import MagicRouter.Cache.Announcements
import MagicRouter.Pubsub.Upstreams

/-! Start-up (`run` in `lib.rs`): `RoutingTable::new` announces its upstreams and then
waits until the dispatcher signals that it is connected to them. The two tasks share
the channel of state messages and one `Notify`. -/

namespace MagicRouter

open Library

/-- Capacity of the channel of state messages. -/
def STATE_CHANNEL_CAPACITY : Nat := 1024

/-- The dispatcher and `RoutingTable::new`, until the latter returns. -/
structure Startup where
  dispatcher : SubscriptionDispatcher
  /-- what the dispatcher has handled, in order -/
  handled : List WsUpstreamState
  channel : List WsUpstreamState
  /-- what `new` has still to send -/
  toSend : List WsUpstreamState
  /-- whether the static identity, if there is one, is among the registry's; `new`
  fails before it waits if it is not -/
  known : Bool
  /-- the permit that `notify_one` leaves for `notified` -/
  permit : Bool
  /-- whether `ready.notified()` has returned -/
  returned : Bool

/-- What one of the two tasks, or a connection, does next. Nobody sends requests to
the dispatcher before `new` returns. -/
inductive StartupAction where
  | send
  | handle
  | completed (attempt : Nat) (established : List Bool)
  | disconnect (pool : PoolId)
  | notified

namespace Startup

/-- Before `new` announces anything. The registry's accounts are asked for after the
base chain is announced and are inserted one after the other. -/
def start (lib : RegistryLibrary) (upstreams : BaseChainUpstreams) (staleAfter : Nat)
    (static : Option Pubkey) (accounts : List RegistryNotification) (count : Nat) : Startup where
  dispatcher := .new count
  handled := []
  channel := []
  toSend := RoutingTable.announced lib upstreams staleAfter static accounts
  known := static.all fun identity =>
    (((RoutingTable.initial upstreams staleAfter static).follow lib accounts).inner.lookup
      identity).isSome
  permit := false
  returned := false

def step (s : Startup) : StartupAction → Option Startup
  | .send =>
    match s.toSend with
    | [] => none
    | message :: rest =>
      if s.channel.length < STATE_CHANNEL_CAPACITY then
        some { s with channel := s.channel ++ [message], toSend := rest }
      else none
  | .handle =>
    match s.channel with
    | [] => none
    | message :: rest =>
      (s.dispatcher.step (.state message)).map fun dispatcher =>
        { s with dispatcher, channel := rest, handled := s.handled ++ [message] }
  | .completed attempt established =>
    (s.dispatcher.step (.completed attempt established)).map fun dispatcher =>
      -- `ready` is taken, and notified, when the last pending attempt completes
      { s with dispatcher, permit := s.permit || (s.dispatcher.ready && !dispatcher.ready) }
  | .disconnect pool =>
    (s.dispatcher.step (.disconnect pool)).map fun dispatcher => { s with dispatcher }
  | .notified =>
    if s.toSend.isEmpty && s.known && s.permit && !s.returned then
      some { s with permit := false, returned := true }
    else none

/-- All messages of `new` are handled, and every URL it left online is connected. -/
structure Connected (messages : List WsUpstreamState) (s : Startup) : Prop where
  handled : s.handled = messages
  present : ∀ url, AnnouncedOnline messages url → url ∈ s.dispatcher.upstreams
  completed : ∀ url, AnnouncedOnline messages url → ¬ s.dispatcher.Pending url

/-- `new` has not returned before the dispatcher was connected. -/
def ReadyConnected (messages : List WsUpstreamState) (s : Startup) : Prop :=
  s.returned = true → Connected messages s

/-- The action is not the completion of an attempt. -/
def Waits : StartupAction → Prop
  | .completed _ _ => False
  | _ => True

/-- The same, however the two tasks go on while the pending attempts take their time. -/
def ReadyWhileWaiting (messages : List WsUpstreamState) (s : Startup) : Prop :=
  ∀ actions t, (∀ action ∈ actions, Waits action) → Run (Fires step) s actions t →
    ReadyConnected messages t

/-- The last pending attempt completes before readiness was ever signalled only when
the dispatcher has handled all that `new` sends. -/
def SignalsLast (s : Startup) : StartupAction → Prop
  | .completed _ _ => s.dispatcher.ready = true → s.dispatcher.connections.length = 1 →
      s.known = true → s.channel = [] ∧ s.toSend = []
  | _ => True

/-- What holds of both tasks at any time. -/
structure Sound (messages : List WsUpstreamState) (s : Startup) : Prop where
  running : s.dispatcher.running = true
  messages_eq : messages = s.handled ++ s.channel ++ s.toSend
  bounded : s.channel.length ≤ STATE_CHANNEL_CAPACITY
  last : ∀ url, s.dispatcher.lastState url = Write.last url (s.handled.map (·.write))
  /-- a URL that was last seen online has its pool, or an attempt at one -/
  served : ∀ url, s.dispatcher.lastState url = some true →
    url ∈ s.dispatcher.upstreams ∨ s.dispatcher.Pending url
  /-- readiness is signalled once, and the wait ends after that -/
  signalled : s.permit = true ∨ s.returned = true → s.dispatcher.ready = false
  waited : s.returned = true → s.known = true

/-- Once readiness is signalled to a `new` that waits for it, all is connected. -/
def Settled (messages : List WsUpstreamState) (s : Startup) : Prop :=
  s.known = true → s.permit = true ∨ s.returned = true → Connected messages s

/-- Every transition, with its guard and its full effect. -/
inductive Step (s : Startup) : StartupAction → Startup → Prop where
  | send (next : s.toSend = message :: rest) (room : s.channel.length < STATE_CHANNEL_CAPACITY) :
      Step s .send { s with channel := s.channel ++ [message], toSend := rest }
  | handle (next : s.channel = message :: rest)
      (taken : SubscriptionDispatcher.Step s.dispatcher (.state message) after) :
      Step s .handle { s with
        dispatcher := after, channel := rest, handled := s.handled ++ [message] }
  | completed (found : s.dispatcher.connections[attempt]? = some (url, target)) :
      Step s (.completed attempt established) { s with
        dispatcher := { s.dispatcher with
          upstreams := s.dispatcher.upstreams.insert url s.dispatcher.nextPool
          pools := Function.update s.dispatcher.pools s.dispatcher.nextPool
            (SubscriptionDispatcher.trySpawnConnections url established)
          nextPool := s.dispatcher.nextPool + 1
          connections := s.dispatcher.connections.eraseIdx attempt
          ready := s.dispatcher.ready && !(s.dispatcher.connections.eraseIdx attempt).isEmpty }
        permit := s.permit ||
          (s.dispatcher.ready && (s.dispatcher.connections.eraseIdx attempt).isEmpty) }
  | disconnect (pools : PoolId → ConnectionPool) :
      Step s (.disconnect pool) { s with dispatcher := { s.dispatcher with pools } }
  | notified (sent : s.toSend = []) (known : s.known = true) (permit : s.permit = true) :
      Step s .notified { s with permit := false, returned := true }

variable {messages : List WsUpstreamState} {s t : Startup} {action : StartupAction}

theorem step_sound (fired : step s action = some t) : Step s action t := by
  cases action with
  | send =>
    simp only [step] at fired
    split at fired
    · cases fired
    · split at fired <;> cases fired
      exact .send ‹_› ‹_›
  | handle =>
    simp only [step] at fired
    split at fired
    · cases fired
    · obtain ⟨dispatcher, handled, rfl⟩ := Option.map_eq_some_iff.mp fired
      exact .handle ‹_› (SubscriptionDispatcher.step_sound handled)
  | completed attempt established =>
    obtain ⟨dispatcher, handled, rfl⟩ := Option.map_eq_some_iff.mp fired
    cases SubscriptionDispatcher.step_sound handled with
    | @completed _ url target _ found =>
      have signal : (s.dispatcher.ready && !(s.dispatcher.ready &&
          !(s.dispatcher.connections.eraseIdx attempt).isEmpty)) =
          (s.dispatcher.ready && (s.dispatcher.connections.eraseIdx attempt).isEmpty) := by
        cases s.dispatcher.ready <;> simp
      simp only [signal]
      exact .completed found
  | disconnect pool =>
    obtain ⟨dispatcher, handled, rfl⟩ := Option.map_eq_some_iff.mp fired
    cases SubscriptionDispatcher.step_sound handled with
    | disconnect _ => exact .disconnect _
  | notified =>
    simp only [step] at fired
    split at fired <;> cases fired
    rename_i guard
    simp only [Bool.and_eq_true, List.isEmpty_iff] at guard
    exact .notified guard.1.1.1 guard.1.1.2 guard.1.2

theorem Sound.initial (lib : RegistryLibrary) (upstreams : BaseChainUpstreams) (staleAfter : Nat)
    (static : Option Pubkey) (accounts : List RegistryNotification) (count : Nat) :
    Sound (RoutingTable.announced lib upstreams staleAfter static accounts)
      (start lib upstreams staleAfter static accounts count) where
  running := rfl
  messages_eq := rfl
  bounded := by simp [start]
  last _ := rfl
  served := by
    intro url online
    cases online
  signalled := by
    intro signalled
    rcases signalled with permit | returned
    · cases permit
    · cases returned
  waited := by
    intro returned
    cases returned

/-- Handling a message keeps the last states, and every online URL served. -/
private theorem Sound.handle {message : WsUpstreamState} {rest : List WsUpstreamState}
    {after : SubscriptionDispatcher} (sound : Sound messages s) (next : s.channel = message :: rest)
    (taken : SubscriptionDispatcher.Step s.dispatcher (.state message) after) :
    Sound messages { s with
      dispatcher := after, channel := rest, handled := s.handled ++ [message] } := by
  have last_state (url : Url) (isOnline : Bool) (same : message.isOnline = isOnline) :
      Function.update s.dispatcher.lastState message.url (some isOnline) url =
        Write.last url ((s.handled ++ [message]).map (·.write)) := by
    rw [List.map_append, List.map_singleton, Write.last_snoc]
    by_cases here : url = message.url
    · subst here
      simp [WsUpstreamState.write, Write.keepLast, same]
    · simp [WsUpstreamState.write, Write.keepLast, here, Ne.symm here, sound.last]
  have messages_eq : messages = s.handled ++ [message] ++ rest ++ s.toSend := by
    rw [sound.messages_eq, next]
    simp
  have bounded : rest.length ≤ STATE_CHANNEL_CAPACITY := by
    have whole := sound.bounded
    rw [next, List.length_cons] at whole
    omega
  cases taken with
  | offline gone =>
    refine ⟨sound.running, messages_eq, bounded, fun url => last_state url false gone, ?_, sound.signalled,
      sound.waited⟩
    intro url online
    by_cases here : url = message.url
    · simp [here] at online
    · simp only [Function.update_of_ne here] at online
      rcases sound.served url online with present | pending
      · exact .inl (AList.mem_erase.mpr ⟨here, present⟩)
      · exact .inr pending
  | known isOnline present =>
    refine ⟨sound.running, messages_eq, bounded, fun url => last_state url true isOnline, ?_, sound.signalled,
      sound.waited⟩
    intro url online
    by_cases here : url = message.url
    · exact .inl (here ▸ present)
    · simp only [Function.update_of_ne here] at online
      exact sound.served url online
  | attempt isOnline absent =>
    refine ⟨sound.running, messages_eq, bounded, fun url => last_state url true isOnline, ?_, sound.signalled,
      sound.waited⟩
    intro url online
    by_cases here : url = message.url
    · exact .inr ⟨message.target, by simp [here]⟩
    · simp only [Function.update_of_ne here] at online
      rcases sound.served url online with present | ⟨target, pending⟩
      · exact .inl present
      · exact .inr ⟨target, List.mem_append_left _ pending⟩

/-- An attempt that is not the one completed is still pending, or its URL is served. -/
private theorem Sound.complete {attempt : Nat} {url : Url} {target : PubSubUpstreamKind}
    (sound : Sound messages s) (found : s.dispatcher.connections[attempt]? = some (url, target))
    (other : Url) (online : s.dispatcher.lastState other = some true) :
    other ∈ s.dispatcher.upstreams.insert url s.dispatcher.nextPool ∨
      ∃ target, (other, target) ∈ s.dispatcher.connections.eraseIdx attempt := by
  rw [AList.mem_insert]
  rcases sound.served other online with present | pending
  · exact .inl (.inr present)
  · by_cases here : other = url
    · exact .inl (.inl here)
    · exact .inr (SubscriptionDispatcher.pending_of_erase found here pending)

theorem Sound.step (sound : Sound messages s) (step : Step s action t) : Sound messages t := by
  cases step with
  | send next room =>
    refine ⟨sound.running, ?_, ?_, sound.last, sound.served, sound.signalled, sound.waited⟩
    · rw [sound.messages_eq, next]
      simp
    · rw [List.length_append]
      exact room
  | handle next taken => exact sound.handle next taken
  | @completed attempt url target established found =>
    refine ⟨sound.running, sound.messages_eq, sound.bounded, sound.last, sound.complete found, ?_, sound.waited⟩
    intro signalled
    have given : (s.permit = true ∨ s.dispatcher.ready = true ∧
        (s.dispatcher.connections.eraseIdx attempt).isEmpty = true) ∨ s.returned = true := by
      simpa using signalled
    rcases given with (permit | ⟨_, last⟩) | returned
    · simp [sound.signalled (.inl permit)]
    · simp [last]
    · simp [sound.signalled (.inr returned)]
  | disconnect pools =>
    exact ⟨sound.running, sound.messages_eq, sound.bounded, sound.last, sound.served,
      sound.signalled, sound.waited⟩
  | notified sent known permit =>
    exact ⟨sound.running, sound.messages_eq, sound.bounded, sound.last, sound.served,
      fun _ => sound.signalled (.inl permit), fun _ => known⟩

/-- What is connected, read off the state. -/
theorem connected_iff (sound : Sound messages s) :
    Connected messages s ↔ s.channel = [] ∧ s.toSend = [] ∧ ∀ url,
      s.dispatcher.lastState url = some true →
        url ∈ s.dispatcher.upstreams ∧ ¬ s.dispatcher.Pending url := by
  have online (url : Url) (all : s.handled = messages) :
      AnnouncedOnline messages url ↔ s.dispatcher.lastState url = some true := by
    rw [AnnouncedOnline, sound.last, all]
  constructor
  · rintro ⟨handled, present, completed⟩
    have rest : s.channel ++ s.toSend = [] := by
      have whole := sound.messages_eq
      rw [List.append_assoc, handled] at whole
      simpa using whole
    obtain ⟨channel, toSend⟩ := List.append_eq_nil_iff.mp rest
    refine ⟨channel, toSend, ?_⟩
    intro url last
    have announced := (online url handled).mpr last
    exact ⟨present url announced, completed url announced⟩
  · rintro ⟨channel, toSend, served⟩
    have handled : s.handled = messages := by
      rw [sound.messages_eq, channel, toSend]
      simp
    refine ⟨handled, ?_, ?_⟩
    · intro url announced
      exact (served url ((online url handled).mp announced)).1
    · intro url announced
      exact (served url ((online url handled).mp announced)).2

/-- Where all was connected, the end of an attempt changes nothing. -/
theorem Connected.completed_step (connected : Connected messages s) (sound : Sound messages s)
    (step : Step s (.completed attempt established) t) : Connected messages t := by
  have after := sound.step step
  obtain ⟨channel, toSend, served⟩ := (connected_iff sound).mp connected
  rw [connected_iff after]
  cases step with
  | completed found =>
    refine ⟨channel, toSend, ?_⟩
    intro other online
    obtain ⟨present, unpending⟩ := served other online
    refine ⟨(AList.mem_insert _).mpr (.inr present), ?_⟩
    rintro ⟨target', pending⟩
    exact unpending ⟨target', List.mem_of_mem_eraseIdx pending⟩

/-- Without pending attempts, all is connected once all is handled. -/
theorem Sound.connected (sound : Sound messages s) (channel : s.channel = []) (toSend : s.toSend = [])
    (idle : s.dispatcher.connections = []) : Connected messages s := by
  rw [connected_iff sound]
  refine ⟨channel, toSend, ?_⟩
  intro other online
  have unpending : ¬ s.dispatcher.Pending other := by
    rintro ⟨target, pending⟩
    rw [idle] at pending
    cases pending
  exact ⟨(sound.served other online).resolve_right unpending, unpending⟩

/-- The completion of an attempt leads to a settled state unless it signals readiness
too early. -/
theorem Settled.completed_iff (settled : Settled messages s) (sound : Sound messages s)
    (step : Step s (.completed attempt established) t) :
    Settled messages t ↔ SignalsLast s (.completed attempt established) := by
  have after := sound.step step
  have kept (connected : Connected messages s) : Connected messages t :=
    connected.completed_step sound step
  cases step with
  | @completed _ url target _ found =>
    have last_iff : (s.dispatcher.connections.eraseIdx attempt).isEmpty = true ↔
        s.dispatcher.connections.length = 1 := by
      obtain ⟨within, _⟩ := List.getElem?_eq_some_iff.mp found
      rw [List.isEmpty_iff_length_eq_zero, List.length_eraseIdx_of_lt within]
      omega
    constructor
    · intro later ready last known
      have signalled : (s.permit || (s.dispatcher.ready &&
          (s.dispatcher.connections.eraseIdx attempt).isEmpty)) = true := by
        rw [ready, last_iff.mpr last]
        simp
      obtain ⟨channel, toSend, _⟩ := (connected_iff after).mp (later known (.inl signalled))
      exact ⟨channel, toSend⟩
    · intro signalsLast known signalled
      have given : (s.permit = true ∨ s.returned = true) ∨ s.dispatcher.ready = true ∧
          (s.dispatcher.connections.eraseIdx attempt).isEmpty = true := by
        rcases signalled with permit | returned
        · rw [Bool.or_eq_true, Bool.and_eq_true] at permit
          exact permit.imp_left .inl
        · exact .inl (.inr returned)
      rcases given with earlier | ⟨ready, last⟩
      · exact kept (settled known earlier)
      · obtain ⟨channel, toSend⟩ := signalsLast ready (last_iff.mp last) known
        exact after.connected channel toSend (List.isEmpty_iff.mp last)

/-- From a settled state, exactly the completion that signals readiness can lead to
one that is not. -/
theorem Settled.step_iff (settled : Settled messages s) (sound : Sound messages s)
    (step : Step s action t) : Settled messages t ↔ SignalsLast s action := by
  have after := sound.step step
  cases step with
  | send next _ =>
    refine iff_of_true ?_ trivial
    intro known signalled
    have connected := (connected_iff sound).mp (settled known signalled)
    rw [next] at connected
    cases connected.2.1
  | handle next taken =>
    refine iff_of_true ?_ trivial
    intro known signalled
    have connected := (connected_iff sound).mp (settled known signalled)
    rw [next] at connected
    cases connected.1
  | disconnect pools =>
    refine iff_of_true ?_ trivial
    intro known signalled
    rw [connected_iff after]
    exact (connected_iff sound).mp (settled known signalled)
  | notified sent known permit =>
    refine iff_of_true ?_ trivial
    intro known signalled
    rw [connected_iff after]
    exact (connected_iff sound).mp (settled known (.inl permit))
  | completed found => exact settled.completed_iff sound (.completed found)

theorem handle_fires {message : WsUpstreamState} {rest : List WsUpstreamState}
    (running : s.dispatcher.running = true) (next : s.channel = message :: rest) :
    step s .handle = some { s with
      dispatcher := s.dispatcher.handleState message
      channel := rest
      handled := s.handled ++ [message] } := by
  simp [step, next, SubscriptionDispatcher.step, running]

theorem send_fires {message : WsUpstreamState} {rest : List WsUpstreamState}
    (next : s.toSend = message :: rest) (room : s.channel.length < STATE_CHANNEL_CAPACITY) :
    step s .send = some { s with channel := s.channel ++ [message], toSend := rest } := by
  simp [step, next, room]

/-- While the attempts take their time, the table can send the rest of its messages and
the dispatcher stay one behind. -/
theorem exists_overtaken (sound : Sound messages s) (permit : s.permit = true) (known : s.known = true)
    (waiting : s.returned = false) (unconnected : ¬ Connected messages s) :
    ∃ actions t, (∀ action ∈ actions, Waits action) ∧ Run (Fires step) s actions t ∧
      ¬ ReadyConnected messages t := by
  induction remaining : s.toSend generalizing s with
  | nil =>
    have fired : step s .notified = some { s with permit := false, returned := true } := by
      simp [step, remaining, known, permit, waiting]
    refine ⟨[.notified], _, by simp [Waits], .single fired, ?_⟩
    intro ready
    obtain ⟨handled, present, completed⟩ := ready rfl
    exact unconnected ⟨handled, present, completed⟩
  | cons message rest ih =>
    -- after the send one message at least is left in the channel
    have behind (u : Startup) (sound : Sound messages u) (left : u.channel ≠ []) :
        ¬ Connected messages u := fun connected => left ((connected_iff sound).mp connected).1
    by_cases room : s.channel.length < STATE_CHANNEL_CAPACITY
    · have fired := send_fires remaining room
      have later := sound.step (step_sound fired)
      obtain ⟨actions, t, waits, run, bad⟩ := ih later permit known waiting (behind _ later (by simp)) rfl
      exact ⟨.send :: actions, t, List.forall_mem_cons.mpr ⟨trivial, waits⟩, run.cons fired, bad⟩
    · cases queued : s.channel with
      | nil => simp [queued, STATE_CHANNEL_CAPACITY] at room
      | cons oldest others =>
        have handled := handle_fires sound.running queued
        have middle := sound.step (step_sound handled)
        have space : others.length < STATE_CHANNEL_CAPACITY := by
          have whole := sound.bounded
          rw [queued, List.length_cons] at whole
          omega
        let relieved : Startup := { s with
          dispatcher := s.dispatcher.handleState oldest
          channel := others
          handled := s.handled ++ [oldest] }
        have fired := send_fires (show relieved.toSend = message :: rest from remaining) space
        have later := middle.step (step_sound fired)
        obtain ⟨actions, t, waits, run, bad⟩ := ih later permit known waiting (behind _ later (by simp)) rfl
        have allowed : ∀ action ∈ .handle :: .send :: actions, Waits action :=
          List.forall_mem_cons.mpr ⟨trivial, List.forall_mem_cons.mpr ⟨trivial, waits⟩⟩
        exact ⟨.handle :: .send :: actions, t, allowed, (run.cons fired).cons handled, bad⟩

/-- Nothing has been signalled too early. -/
structure Quiet (messages : List WsUpstreamState) (s : Startup) : Prop where
  sound : Sound messages s
  settled : Settled messages s

theorem readyWhileWaiting_iff (sound : Sound messages s) :
    ReadyWhileWaiting messages s ↔ Settled messages s := by
  constructor
  · intro ready known signalled
    have now : ReadyConnected messages s := ready [] s (by simp) .nil
    cases waiting : s.returned with
    | true => exact now waiting
    | false =>
      have permit : s.permit = true := by simpa [waiting] using signalled
      by_contra unconnected
      obtain ⟨actions, t, waits, run, bad⟩ := exists_overtaken sound permit known waiting unconnected
      exact bad (ready actions t waits run)
  · intro settled actions t waits run returned
    have kept : Quiet messages t := by
      refine run.invariant_of_allowed ⟨sound, settled⟩ ?_ waits
      intro s action t waits quiet fired
      have change := step_sound fired
      refine ⟨quiet.sound.step change, (quiet.settled.step_iff quiet.sound change).mpr ?_⟩
      cases action with
      | completed => exact absurd waits id
      | _ => trivial
    exact kept.settled (kept.sound.waited returned) (.inr returned)

/-- However the two tasks interleave, and however they go on while attempts are pending,
`new` waits until the dispatcher is connected, exactly if readiness is not signalled
before everything that `new` sends has been handled. -/
theorem ready_throughout_iff (lib : RegistryLibrary) (upstreams : BaseChainUpstreams)
    (staleAfter : Nat) (static : Option Pubkey) (accounts : List RegistryNotification) (count : Nat)
    (actions : List StartupAction)
    (run : Run (Fires step) (start lib upstreams staleAfter static accounts count) actions t) :
    Throughout step
        (ReadyWhileWaiting (RoutingTable.announced lib upstreams staleAfter static accounts))
        (start lib upstreams staleAfter static accounts count) actions ↔
      Run (Guarded SignalsLast (Fires step)) (start lib upstreams staleAfter static accounts count)
        actions t := by
  have sound := Sound.initial lib upstreams staleAfter static accounts count
  have settled : Settled (RoutingTable.announced lib upstreams staleAfter static accounts)
      (start lib upstreams staleAfter static accounts count) := by
    intro known signalled
    rcases signalled with permit | returned
    · cases permit
    · cases returned
  have unbounded : ∀ action ∈ actions, (fun _ : StartupAction => True) action := by simp
  refine throughout_iff_guarded sound ((readyWhileWaiting_iff sound).mpr settled) ?_ ?_ run unbounded
  · intro s action t _ sound fired
    exact sound.step (step_sound fired)
  · intro s action t _ sound ready fired
    have change := step_sound fired
    rw [readyWhileWaiting_iff sound] at ready
    rw [readyWhileWaiting_iff (sound.step change)]
    exact ready.step_iff sound change

/-- One node is registered; one connection per upstream. -/
def sampleStart : Startup :=
  start RoutingTable.relocationLibrary RoutingTable.relocationUpstreams 0 none
    [RoutingTable.relocationNotice [1]] 1

/-- The base chain is connected before the node is announced. -/
def chainFirst : List StartupAction :=
  [.send, .handle, .completed 0 [true], .send, .notified]

/-- `new` returns while the node's message is still in the channel. -/
theorem ready_before_node_handled :
    ¬ ∀ (lib : RegistryLibrary) upstreams staleAfter static accounts count actions t,
      Run (Fires step) (start lib upstreams staleAfter static accounts count) actions t →
      ReadyConnected (RoutingTable.announced lib upstreams staleAfter static accounts) t := by
  intro claimed
  obtain ⟨t, run, early⟩ := exists_run_of_exec
    (show (exec step sampleStart chainFirst).map (fun s => s.returned && decide (s.handled ≠
      RoutingTable.announced RoutingTable.relocationLibrary RoutingTable.relocationUpstreams 0 none
        [RoutingTable.relocationNotice [1]])) = some true by decide +kernel)
  rw [Bool.and_eq_true] at early
  obtain ⟨returned, behind⟩ := early
  have connected := claimed _ _ _ _ _ _ _ t run returned
  exact of_decide_eq_true behind connected.handled

/-- An executable form of `SignalsLast`. -/
def signalsLast (s : Startup) : StartupAction → Bool
  | .completed _ _ => decide (s.dispatcher.ready = true → s.dispatcher.connections.length = 1 →
      s.known = true → s.channel = [] ∧ s.toSend = [])
  | _ => true

theorem signalsLast_sound (s : Startup) (action : StartupAction)
    (checked : s.signalsLast action = true) : s.SignalsLast action := by
  cases action with
  | completed =>
    intro ready last known
    simpa [signalsLast, ready, last, known] using checked
  | _ => trivial

/-- Both upstreams are announced before the first of them is connected. -/
def allAnnounced : List StartupAction :=
  [.send, .send, .handle, .handle, .completed 1 [true], .completed 0 [true], .notified]

theorem ready_throughout_allAnnounced :
    Throughout step (ReadyWhileWaiting (RoutingTable.announced RoutingTable.relocationLibrary
      RoutingTable.relocationUpstreams 0 none [RoutingTable.relocationNotice [1]]))
      sampleStart allAnnounced := by
  obtain ⟨t, run, _⟩ := exists_run_of_exec
    (show (exec (checkedStep signalsLast step) sampleStart allAnnounced).map (fun _ => true) =
      some true by decide +kernel)
  have guarded := run.guarded_of_checked signalsLast_sound
  exact (ready_throughout_iff _ _ _ _ _ _ _ guarded.unguarded).mpr guarded

end Startup

end MagicRouter
