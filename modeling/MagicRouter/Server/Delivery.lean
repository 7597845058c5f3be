import MagicRouter.Server.Router

/-! What clients are sent, over whole runs of the system: nothing but notifications of
what they subscribed to, in the order their channels received them. -/

namespace MagicRouter

open Library Connection

/-- The payload of a notification. -/
def PubsubMessage.payload : PubsubMessage → Option Json
  | .notification _ _ payload => some payload
  | .subscribed _ | .disconnected _ => none

/-- The subscription is made for the target, over the channel. -/
structure Subscription.OnBehalf (sub : Subscription) (target : SubscriptionTarget) (tx : Channel) :
    Prop where
  tx : sub.tx = tx
  target : sub.target = target

/-- A subscriber that is there for the target and reads from the channel. -/
def Phase.Serves (target : SubscriptionTarget) (tx : Channel) : Phase → Prop
  | .registry updater => updater.subscription.OnBehalf target tx
  | .accountPending pending => pending.handler.pubsubTx = tx ∧
      target = .account pending.handler.pubkey pending.handler.params
  | .account handler => handler.pubsubTx = tx ∧ target = .account handler.pubkey handler.params
  | .signaturePending _ | .signature _ | .ended => True

namespace AccountSubscriptionHandler

variable (context : HandlerContext) (handler : AccountSubscriptionHandler)

/-- A handler subscribes to nothing but its account, over its own channel. -/
theorem receive_onBehalf (message : PubsubMessage) {sub : Subscription}
    (dispatched : .dispatch sub ∈ (handler.receive context message).effects) :
    sub.OnBehalf (.account handler.pubkey handler.params) handler.pubsubTx := by
  cases message with
  | subscribed handle => cases dispatched
  | notification id upstream payload =>
    have changed : .dispatch sub ∈
        (handler.handleDelegationStatusChange context payload id upstream).2 := by
      simp only [receive] at dispatched
      split at dispatched
      · exact dispatched
      · split at dispatched
        · simpa using dispatched
        · exact dispatched
    obtain same | ⟨_, node, _, _, _, same⟩ | ⟨_, _, _, same⟩ :=
      handleDelegationStatusChange_cases context handler payload id upstream
    · rw [same] at changed
      cases changed
    · rw [same] at changed
      cases List.mem_singleton.mp changed
      exact ⟨rfl, rfl⟩
    · rw [same] at changed
      cases List.mem_singleton.mp changed
  | disconnected id =>
    simp only [receive] at dispatched
    split at dispatched
    · cases dispatched
    · obtain ⟨url, _, same⟩ := List.mem_map.mp dispatched
      cases same
      exact ⟨rfl, rfl⟩

/-- A handler stays with its channel and its parameters. -/
theorem receive_keeps (message : PubsubMessage) :
    (handler.receive context message).handler.pubsubTx = handler.pubsubTx ∧
      (handler.receive context message).handler.params = handler.params := by
  cases message with
  | subscribed handle => exact ⟨rfl, rfl⟩
  | notification id upstream payload =>
    have kept : (handler.handleDelegationStatusChange context payload id upstream).1.pubsubTx =
        handler.pubsubTx ∧
        (handler.handleDelegationStatusChange context payload id upstream).1.params =
          handler.params := by
      obtain same | ⟨_, _, _, _, _, same⟩ | ⟨_, _, _, same⟩ :=
        handleDelegationStatusChange_cases context handler payload id upstream
      all_goals
        rw [same]
        exact ⟨rfl, rfl⟩
    simp only [receive]
    split
    · exact kept
    · split
      · exact kept
      · exact kept
  | disconnected id =>
    simp only [receive]
    split
    · exact ⟨rfl, rfl⟩
    · exact ⟨rfl, rfl⟩

/-- A message is passed on to the client at most once, and only if it notifies. -/
theorem receive_notified (message : PubsubMessage) :
    ((handler.receive context message).effects.filterMap HandlerEffect.notified).Sublist
      message.payload.toList := by
  cases message with
  | subscribed handle => exact List.Sublist.slnil
  | notification id upstream payload =>
    have silent : (handler.handleDelegationStatusChange context payload id upstream).2.filterMap
        HandlerEffect.notified = [] := by
      obtain same | ⟨_, _, _, _, _, same⟩ | ⟨_, _, _, same⟩ :=
        handleDelegationStatusChange_cases context handler payload id upstream
      all_goals
        rw [same]
        rfl
    simp only [receive]
    split
    · rw [silent]
      exact List.nil_sublist _
    · split
      · rw [List.filterMap_append, silent]
        exact List.Sublist.refl _
      · rw [silent]
        exact List.nil_sublist _
  | disconnected id =>
    simp only [receive]
    split
    · exact List.Sublist.slnil
    · rw [List.filterMap_eq_nil_iff.mpr]
      · exact List.nil_sublist _
      · intro effect member
        obtain ⟨url, _, rfl⟩ := List.mem_map.mp member
        rfl

end AccountSubscriptionHandler

/-- What a signature handler passes on is the notification it took. -/
theorem SignatureSubscriptionHandler.run_notified (handler : SignatureSubscriptionHandler)
    (message : PubsubMessage) (serialized delivered : Bool) :
    ((handler.run (.message message serialized delivered)).filterMap
      HandlerEffect.notified).Sublist message.payload.toList := by
  cases message with
  | subscribed handle => exact List.Sublist.slnil
  | disconnected id => exact List.Sublist.slnil
  | notification id upstream payload =>
    simp only [run]
    split
    · exact List.Sublist.refl _
    · exact List.nil_sublist _

namespace Updater

variable {lib : UpdaterLibrary} {updater : Updater}

/-- The updater dispatches nothing but its one subscription, to whichever destination. -/
theorem receive_subscription (lib : UpdaterLibrary) (message : PubsubMessage) (probe : Bool) :
    (updater.receive lib message probe).1.subscription.tx = updater.subscription.tx ∧
      (updater.receive lib message probe).1.subscription.target = updater.subscription.target ∧
      ∀ sub ∈ (updater.receive lib message probe).2.dispatched,
        sub = (updater.receive lib message probe).1.subscription := by
  cases message with
  | subscribed handle => exact ⟨rfl, rfl, List.forall_mem_nil _⟩
  | notification id upstream payload =>
    simp only [receive]
    split
    · exact ⟨rfl, rfl, List.forall_mem_nil _⟩
    · exact ⟨rfl, rfl, List.forall_mem_nil _⟩
  | disconnected id =>
    refine ⟨rfl, rfl, ?_⟩
    intro sub member
    exact List.mem_singleton.mp member

/-- Pings leave the subscription alone. -/
theorem handle_quiet {event : UpdaterEvent} {next : Updater × UpdaterOutput}
    (quiet : ∀ message probe, event ≠ .message message probe)
    (handled : updater.handle lib event = some next) :
    next.1.subscription = updater.subscription ∧ next.2.dispatched = [] := by
  cases event with
  | message message probe => exact absurd rfl (quiet message probe)
  | ping index result =>
    simp only [handle] at handled
    split at handled
    · cases handled
    · cases handled
      refine ⟨?_, rfl⟩
      unfold settle
      split
      · rfl
      · rfl
  | tick =>
    simp only [handle] at handled
    split at handled
    · cases handled
      exact ⟨rfl, rfl⟩
    · cases handled
      exact ⟨rfl, rfl⟩

end Updater

namespace Party

/-- A subscriber does what it is there for and dispatches nothing else. -/
structure Dutiful (tx : Channel) (party : Party) : Prop where
  serves : party.phase.Serves party.target tx
  own : ∀ sub, .dispatch sub ∈ party.outbox → sub.OnBehalf party.target tx

/-- What is sent to the client is taken from the channel in its order. -/
def InOrder (party : Party) : Prop :=
  ∃ taken, party.arrived.map Prod.snd = taken ++ party.inbox ∧
    (party.forwarded ++ party.outbox.filterMap HandlerEffect.notified).Sublist
      (taken.filterMap PubsubMessage.payload)

/-- What one step may change of a subscriber: it takes the oldest message or none, and
goes on to sends that are on its behalf and pass on at most that message. -/
structure Advances (tx : Channel) (party next : Party) : Prop where
  target : next.target = party.target
  history : next.arrived = party.arrived ∧ next.forwarded = party.forwarded
  running : party.phase.isEnded = false
  idle : party.outbox = []
  serves : party.phase.Serves party.target tx → next.phase.Serves next.target tx
  own : party.phase.Serves party.target tx → ∀ sub, .dispatch sub ∈ next.outbox →
    sub.OnBehalf next.target tx
  taken : ∃ read : List PubsubMessage, party.inbox = read ++ next.inbox ∧
    (next.outbox.filterMap HandlerEffect.notified).Sublist (read.filterMap PubsubMessage.payload)

variable {lib : UpdaterLibrary} {tx : Channel} {party next : Party}

/-- A subscriber that goes on in another phase. -/
theorem proceed_advances {phase : Phase} {effects : List HandlerEffect}
    {read rest : List PubsubMessage} (running : party.phase.isEnded = false)
    (idle : party.outbox = []) (inbox : party.inbox = read ++ rest)
    (serves : party.phase.Serves party.target tx → phase.Serves party.target tx)
    (own : party.phase.Serves party.target tx → ∀ sub, .dispatch sub ∈ effects →
      sub.OnBehalf party.target tx)
    (notified : (effects.filterMap HandlerEffect.notified).Sublist
      (read.filterMap PubsubMessage.payload)) :
    Advances tx party ({ party with inbox := rest }.proceed phase effects) where
  target := rfl
  history := ⟨rfl, rfl⟩
  running
  idle
  serves := serves
  own := own
  taken := ⟨read, inbox, notified⟩

/-- A subscriber takes its oldest message. -/
theorem take_advances {context : HandlerContext} {probe : Bool} {message : PubsubMessage}
    {rest : List PubsubMessage} (idle : party.outbox = []) (inbox : party.inbox = message :: rest)
    (taken : { party with inbox := rest }.take lib context probe message = some next) :
    Advances tx party next := by
  have read : party.inbox = [message] ++ rest := inbox
  have payload : [message].filterMap PubsubMessage.payload = message.payload.toList := by
    cases found : message.payload <;> simp [found]
  have silent : ([].filterMap HandlerEffect.notified).Sublist
      ([message].filterMap PubsubMessage.payload) := List.nil_sublist _
  unfold take at taken
  cases phase : party.phase with
  | registry updater =>
    simp only [phase] at taken
    cases taken
    obtain ⟨channel, target, only⟩ := updater.receive_subscription lib message probe
    have kept (serving : party.phase.Serves party.target tx) :
        (updater.receive lib message probe).1.subscription.OnBehalf party.target tx := by
      rw [phase] at serving
      exact ⟨channel.trans serving.tx, target.trans serving.target⟩
    refine proceed_advances (by rw [phase]; rfl) idle read kept ?_ ?_
    · intro serving sub member
      obtain ⟨dispatched, listed, same⟩ := List.mem_map.mp member
      cases same
      exact only sub listed ▸ kept serving
    · rw [List.filterMap_eq_nil_iff.mpr]
      · exact List.nil_sublist _
      · intro effect member
        obtain ⟨sub, _, rfl⟩ := List.mem_map.mp member
        rfl
  | accountPending pending =>
    simp only [phase] at taken
    split at taken
    · rename_i handler started
      cases taken
      refine proceed_advances (by rw [phase]; rfl) idle read ?_ nofun silent
      intro serving
      rw [phase] at serving
      cases message with
      | subscribed handle =>
        cases started
        exact serving
      | notification _ _ _ => cases started
      | disconnected _ => cases started
    · cases taken
      exact proceed_advances (by rw [phase]; rfl) idle read (fun _ => trivial) nofun silent
  | account handler =>
    simp only [phase] at taken
    cases taken
    obtain ⟨channel, params⟩ := handler.receive_keeps context message
    refine proceed_advances (by rw [phase]; rfl) idle read ?_ ?_ ?_
    · intro serving
      rw [phase] at serving
      split
      · refine ⟨channel.trans serving.1, ?_⟩
        rw [serving.2, params, handler.receive_pubkey context message]
      · trivial
    · intro serving sub member
      rw [phase] at serving
      obtain ⟨rfl, same⟩ := serving
      rw [same]
      exact handler.receive_onBehalf context message member
    · rw [payload]
      exact handler.receive_notified context message
  | signaturePending pending =>
    simp only [phase] at taken
    cases taken
    have going : party.phase.isEnded = false := by rw [phase]; rfl
    cases message with
    | subscribed _ => exact proceed_advances going idle read (fun _ => trivial) nofun silent
    | notification _ _ _ | disconnected _ =>
      refine proceed_advances going idle read (fun _ => trivial) ?_ silent
      intro _ sub member
      cases List.mem_singleton.mp member
  | signature handler =>
    simp only [phase] at taken
    cases taken
    refine proceed_advances (by rw [phase]; rfl) idle read (fun _ => trivial) ?_ ?_
    · intro _ sub member
      have none := SignatureRun.run_dispatches_nothing handler
        (.message message context.serialized context.delivered)
      cases List.filterMap_eq_nil_iff.mp none _ member
    · rw [payload]
      exact handler.run_notified message _ _
  | ended =>
    simp only [phase] at taken
    cases taken

/-- A subscriber goes on without taking a message, subscribing to nothing and passing
nothing on. -/
theorem proceed_quietly {phase : Phase} {effects : List HandlerEffect}
    (running : party.phase.isEnded = false) (idle : party.outbox = [])
    (serves : party.phase.Serves party.target tx → phase.Serves party.target tx)
    (quiet : ∀ effect ∈ effects, effect.dispatched = none ∧ effect.notified = none) :
    Advances tx party (party.proceed phase effects) := by
  have unread : party.inbox = [] ++ party.inbox := rfl
  refine proceed_advances running idle unread serves ?_ ?_
  · intro _ sub member
    cases (quiet _ member).1
  · rw [List.filterMap_eq_nil_iff.mpr fun effect member => (quiet effect member).2]
    exact List.nil_sublist _

theorem maintenance_advances {updater : Updater} {event : UpdaterEvent}
    (phase : party.phase = .registry updater) (idle : party.outbox = [])
    (quiet : ∀ message probe, event ≠ .message message probe)
    (stepped : (updater.handle lib event).map (fun next =>
      party.proceed (.registry next.1) (next.2.dispatched.map .dispatch)) = some next) :
    Advances tx party next := by
  obtain ⟨after, handled, rfl⟩ := Option.map_eq_some_iff.mp stepped
  obtain ⟨same, none⟩ := Updater.handle_quiet quiet handled
  refine proceed_quietly (by rw [phase]; rfl) idle ?_ ?_
  · intro serving
    rw [phase] at serving
    exact ⟨same ▸ serving.tx, same ▸ serving.target⟩
  · rw [none]
    exact nofun

theorem step_advances {event : PartyEvent} (stepped : party.step lib event = some next) :
    Advances tx party next := by
  unfold step at stepped
  split at stepped
  · rename_i empty
    have idle : party.outbox = [] := List.isEmpty_iff.mp empty
    cases event with
    | message context probe =>
      simp only at stepped
      split at stepped
      · cases stepped
      · exact take_advances idle ‹_› stepped
    | maintenance event =>
      simp only at stepped
      split at stepped
      · refine maintenance_advances ‹_› idle ?_ stepped
        exact nofun
      · refine maintenance_advances ‹_› idle ?_ stepped
        exact nofun
      · cases stepped
    | closed routes =>
      simp only at stepped
      split at stepped
      · rename_i handler phase
        cases stepped
        refine proceed_quietly (by rw [phase]; rfl) idle (fun _ => trivial) ?_
        intro effect member
        obtain ⟨entry, _, rfl⟩ := List.mem_map.mp member
        exact ⟨rfl, rfl⟩
      · rename_i handler phase
        cases stepped
        refine proceed_quietly (by rw [phase]; rfl) idle (fun _ => trivial) ?_
        intro effect member
        cases List.mem_singleton.mp member
        exact ⟨rfl, rfl⟩
      · cases stepped
    | timeout =>
      simp only at stepped
      split at stepped
      all_goals cases stepped
      · exact proceed_quietly (by simp [*, Phase.isEnded]) idle (fun _ => trivial) nofun
      · refine proceed_quietly (by simp [*, Phase.isEnded]) idle (fun _ => trivial) ?_
        intro effect member
        cases List.mem_singleton.mp member
        exact ⟨rfl, rfl⟩
      · exact proceed_quietly (by simp [*, Phase.isEnded]) idle (fun _ => trivial) nofun
  · cases stepped

theorem Advances.dutiful (advances : Advances tx party next) (dutiful : party.Dutiful tx) :
    next.Dutiful tx where
  serves := advances.serves dutiful.serves
  own := advances.own dutiful.serves

theorem Advances.inOrder (advances : Advances tx party next) (ordered : party.InOrder) :
    next.InOrder := by
  obtain ⟨taken, arrived, sent⟩ := ordered
  obtain ⟨read, inbox, notified⟩ := advances.taken
  refine ⟨taken ++ read, ?_, ?_⟩
  · rw [advances.history.1, arrived, inbox, List.append_assoc]
  · rw [advances.idle, List.filterMap_nil, List.append_nil] at sent
    rw [advances.history.2, List.filterMap_append]
    exact sent.append notified

theorem accept_dutiful (dutiful : party.Dutiful tx) (source : Source) (message : PubsubMessage) :
    (party.accept source message).Dutiful tx := by
  unfold accept
  split
  · exact dutiful
  · exact ⟨dutiful.serves, dutiful.own⟩

theorem accept_inOrder (ordered : party.InOrder) (source : Source) (message : PubsubMessage) :
    (party.accept source message).InOrder := by
  unfold accept
  split
  · exact ordered
  · obtain ⟨taken, arrived, sent⟩ := ordered
    refine ⟨taken, ?_, sent⟩
    rw [List.map_append, arrived, List.append_assoc]
    rfl

end Party

namespace Router

variable {lib : UpdaterLibrary} {transactionLib : TransactionLibrary} {s t : Router}
variable {action : Action} {actions : List Action} {count : Nat}

/-- A subscription is one of a subscriber's, for what the subscriber is there for. -/
def Owned (s : Router) (sub : Subscription) : Prop :=
  ∃ party, s.parties[sub.tx.id]? = some party ∧ sub.target = party.target

/-- What a subscriber's channel has received from a connection is what the connection
has sent to it, in order, up to what it still carries; nothing is lost before the
subscriber ends. -/
structure Receives (number : Nat) (party : Party) (source : Source)
    (carried sent : List (Channel × PubsubMessage)) : Prop where
  front : share party.arrived source <+: share sent ⟨number⟩
  rest : party.phase.isEnded = false →
    share party.arrived source ++ share carried ⟨number⟩ = share sent ⟨number⟩

/-- The invariant of the router. -/
structure Conforms (s : Router) : Prop where
  dutiful : ∀ (number : Nat) (party : Party), s.parties[number]? = some party →
    party.Dutiful ⟨number⟩
  ordered : ∀ (number : Nat) (party : Party), s.parties[number]? = some party → party.InOrder
  queued : ∀ sub ∈ s.requests, s.Owned sub
  entered : ∀ pool, ∀ sub ∈ s.network.entered pool, s.Owned sub
  carried : ∀ source, s.courier source <:+ sends (log s.network source)
  receives : ∀ (number : Nat) (party : Party), s.parties[number]? = some party →
    ∀ source, Receives number party source (s.courier source) (sends (log s.network source))

/-- Subscribers stay, with what they are there for. -/
def Extends (s t : Router) : Prop :=
  ∀ (number : Nat) (party : Party), s.parties[number]? = some party →
    ∃ party' : Party, t.parties[number]? = some party' ∧ party'.target = party.target

theorem Owned.extend {sub : Subscription} (owned : s.Owned sub) (stay : Extends s t) :
    t.Owned sub := by
  obtain ⟨party, found, same⟩ := owned
  obtain ⟨party', found', target⟩ := stay _ _ found
  exact ⟨party', found', same.trans target.symm⟩

section Subscribers

variable {number : Nat} {party next : Party} {P : Nat → Party → Prop}
variable {target : SubscriptionTarget} {phase : Phase} {dispatched : List Subscription}

/-- After one subscriber has changed, what holds of it and of the others holds of all. -/
theorem forall_replaced (now : P number next)
    (before : ∀ (other : Nat) (had : Party), other ≠ number → s.parties[other]? = some had →
      P other had) :
    ∀ (other : Nat) (had : Party), (s.replace number next).parties[other]? = some had →
      P other had := by
  intro other had present
  rw [replace, List.getElem?_set] at present
  split at present
  · rename_i same
    subst same
    split at present
    · cases present
      exact now
    · cases present
  · exact before other had (Ne.symm ‹_›) present

theorem replaced_stays (found : s.parties[number]? = some party)
    (kept : next.target = party.target) {other : Nat} {had : Party}
    (present : s.parties[other]? = some had) :
    ∃ after : Party, (s.replace number next).parties[other]? = some after ∧
      after.target = had.target := by
  obtain ⟨inside, _⟩ := List.getElem?_eq_some_iff.mp found
  rw [replace, List.getElem?_set]
  split
  · rename_i same
    subst same
    cases found.symm.trans present
    exact ⟨next, rfl, kept⟩
  · exact ⟨had, present, rfl⟩

/-- After a subscriber has started, what holds of it and of the others holds of all. -/
theorem forall_joined
    (now : P s.parties.length
      { target, phase, inbox := [], outbox := dispatched.map .dispatch, arrived := []
        forwarded := [], reported := [] })
    (before : ∀ (number : Nat) (party : Party), s.parties[number]? = some party → P number party) :
    ∀ (number : Nat) (party : Party),
      (s.join target phase dispatched).parties[number]? = some party → P number party := by
  intro number party found
  rw [join, List.getElem?_append] at found
  split at found
  · exact before number party found
  · rename_i late
    obtain ⟨inside, here⟩ := List.getElem?_eq_some_iff.mp found
    have last : number = s.parties.length := by
      have small : number - s.parties.length < 1 := inside
      omega
    subst last
    simp only [Nat.sub_self, List.getElem_cons_zero] at here
    exact here ▸ now

theorem joined_stays (found : s.parties[number]? = some party) :
    (s.join target phase dispatched).parties[number]? = some party :=
  (List.getElem?_append_left (List.getElem?_eq_some_iff.mp found).1).trans found

end Subscribers

/-- The log of a connection only grows by its own iterations. -/
theorem log_step {n n' : Network} {action : Network.Action} (coupled : n.Coupled)
    (step : Network.Step n action n') (source : Source)
    (other : ∀ event, action ≠ .iterate source.pool source.member event) :
    log n' source = log n source := by
  unfold log
  cases step with
  | state | request | terminate => rfl
  | completed found fired =>
    by_cases here : source.pool = n.dispatcher.nextPool
    · rw [(coupled.unborn source.pool (Nat.le_of_eq here.symm)).1, here]
      simp only [Function.update_self]
      cases spawned : (n.spawn _ _)[source.member]? with
      | none => rfl
      | some session =>
        obtain ⟨number, _, rfl⟩ := List.mem_map.mp (List.mem_of_getElem? spawned)
        rfl
    · simp [here]
  | @iterate pool member session event next _ _ found ran supplies departs =>
    by_cases here : source.pool = pool
    · have elsewhere : member ≠ source.member := by
        rintro rfl
        exact other event (by rw [here])
      subst here
      simp [List.getElem?_set_ne elsewhere]
    · simp [here]

/-- An iteration adds what it does to the log of its connection. -/
theorem log_iterate {n n' : Network} {source : Source} {event : Event} {session : Session}
    (found : (n.members source.pool)[source.member]? = some session)
    (step : Network.Step n (.iterate source.pool source.member event) n') :
    log n source = session.log ∧
      log n' source = session.log ++ (session.connection.handle event).2 := by
  cases step with
  | iterate present ran supplies departs =>
    cases found.symm.trans present
    obtain ⟨_, _, grown⟩ := step_eq_some ran
    obtain ⟨inside, _⟩ := List.getElem?_eq_some_iff.mp found
    refine ⟨by simp [log, found], ?_⟩
    simp [log, List.getElem?_set_self inside, grown]

theorem sends_append (first second : List Emission) :
    sends (first ++ second) = sends first ++ sends second :=
  List.filterMap_append

theorem mem_sends {tx : Channel} {message : PubsubMessage} {log : List Emission}
    (sent : (tx, message) ∈ sends log) :
    ∃ subscriber, .deliver subscriber tx message true ∈ log.map Emission.deed := by
  obtain ⟨emission, member, named⟩ := List.mem_filterMap.mp sent
  split at named
  · rename_i subscriber _ _ deed
    cases named
    exact ⟨subscriber, List.mem_map.mpr ⟨emission, member, deed⟩⟩
  · cases named

/-- The network of the router moves on its own. -/
theorem network_run (run : Run (Fires (step lib transactionLib)) (new count) actions s) :
    ∃ labels, Run (Fires Network.step) (.new count) labels s.network := by
  have silent (labels : List Network.Action) :
      labels.flatMap (fun _ => ([] : List Unit)) = [] := by simp
  obtain ⟨labels, seen, _⟩ := run.project Router.network (fun _ => ([] : List Unit)) (fun _ => [])
    fun s action t fired => by
      have moves : ∃ labels, Run (Fires Network.step) s.network labels t.network := by
        cases step_sound fired with
        | join | refuse | party | lose | deliver => exact ⟨[], .nil⟩
        | send =>
          rename_i first _ _ _
          cases first <;> exact ⟨[], .nil⟩
        | network moved => exact ⟨_, .single moved⟩
        | dispatch _ moved => exact ⟨_, .single moved⟩
        | iterate _ _ _ moved => exact ⟨_, .single moved⟩
      obtain ⟨labels, moved⟩ := moves
      exact ⟨labels, moved, silent labels⟩
  exact ⟨labels, seen⟩

/-- What a connection has sent went to the channels of subscribers. -/
theorem sends_known {labels : List Network.Action}
    (run : Run (Fires Network.step) (.new count) labels s.network)
    (entered : ∀ pool, ∀ sub ∈ s.network.entered pool, s.Owned sub) {source : Source}
    {tx : Channel} {message : PubsubMessage}
    (sent : (tx, message) ∈ sends (log s.network source)) : tx.id < s.parties.length := by
  cases found : (s.network.members source.pool)[source.member]? with
  | none => simp [log, found, sends] at sent
  | some session =>
    have same : log s.network source = session.log := by simp [log, found]
    obtain ⟨subscriber, deed⟩ := mem_sends (same ▸ sent)
    obtain ⟨before, after, parts⟩ := List.append_of_mem deed
    obtain ⟨sub, taken, rfl⟩ := (Network.deed_origin run found parts).2.taken
    have logged : .take sub ∈ session.log.map Emission.deed :=
      parts ▸ List.mem_append_left _ taken
    obtain ⟨party, present, _⟩ :=
      entered source.pool sub (Network.taken_entered (.reached run) found logged)
    exact (List.getElem?_eq_some_iff.mp present).1

/-- A subscriber starts with its own subscriptions to dispatch. -/
theorem Begins.dutiful {tx : Channel} {id : RequestId} {target : SubscriptionTarget} {phase : Phase}
    {dispatched : List Subscription}
    (begins : Begins lib transactionLib tx id target phase dispatched) :
    phase.Serves target tx ∧ ∀ sub ∈ dispatched, sub.OnBehalf target tx := by
  cases begins with
  | registry table requestId subscriberId =>
    refine ⟨⟨rfl, rfl⟩, ?_⟩
    intro sub member
    rw [List.mem_singleton.mp member]
    exact ⟨rfl, rfl⟩
  | account subscribed =>
    obtain ⟨handler, dispatched⟩ :=
      WebsocketServer.accountSubscribe_ok (Prod.ext subscribed rfl)
    refine ⟨?_, ?_⟩
    · rw [Phase.Serves, handler]
      exact ⟨rfl, rfl⟩
    · intro sub member
      rcases dispatched with ⟨_, only⟩ | ⟨_, _, _, _, both⟩
      · rw [only] at member
        rw [List.mem_singleton.mp member]
        exact ⟨rfl, rfl⟩
      · rw [both] at member
        rcases List.mem_cons.mp member with rfl | second
        · exact ⟨rfl, rfl⟩
        · rw [List.mem_singleton.mp second]
          exact ⟨rfl, rfl⟩
  | signature subscribed =>
    refine ⟨trivial, ?_⟩
    intro sub member
    rw [List.mem_singleton.mp member]
    unfold WebsocketServer.signatureSubscribe at subscribed
    split at subscribed
    · cases subscribed
    · split at subscribed
      · cases subscribed
      · cases subscribed
        exact ⟨rfl, rfl⟩

namespace Conforms

/-- One subscriber changes, but not what it is there for, and with it what
connections carry. -/
theorem exchange {number : Nat} {party next : Party}
    {courier : Source → List (Channel × PubsubMessage)} (conforms : Conforms s)
    (found : s.parties[number]? = some party) (target : next.target = party.target)
    (dutiful : next.Dutiful ⟨number⟩) (ordered : next.InOrder)
    (carried : ∀ source, courier source <:+ sends (log s.network source))
    (here : ∀ source, Receives number next source (courier source) (sends (log s.network source)))
    (others : ∀ other (had : Party), other ≠ number → s.parties[other]? = some had → ∀ source,
      Receives other had source (courier source) (sends (log s.network source))) :
    Conforms (Router.replace { s with courier } number next) := by
  have stay : Extends s (Router.replace { s with courier } number next) :=
    fun other had present => replaced_stays found target present
  exact {
    dutiful := forall_replaced dutiful fun other had _ => conforms.dutiful other had
    ordered := forall_replaced ordered fun other had _ => conforms.ordered other had
    queued := fun sub member => (conforms.queued sub member).extend stay
    entered := fun pool sub member => (conforms.entered pool sub member).extend stay
    carried := carried
    receives := forall_replaced here others }

theorem replace {number : Nat} {party next : Party} (conforms : Conforms s)
    (found : s.parties[number]? = some party) (target : next.target = party.target)
    (dutiful : next.Dutiful ⟨number⟩) (ordered : next.InOrder)
    (receives : ∀ source,
      Receives number next source (s.courier source) (sends (log s.network source))) :
    Conforms (s.replace number next) :=
  conforms.exchange found target dutiful ordered conforms.carried receives
    fun other had _ => conforms.receives other had

theorem party {number : Nat} {party next : Party} (conforms : Conforms s)
    (found : s.parties[number]? = some party) (advances : Party.Advances ⟨number⟩ party next) :
    Conforms (s.replace number next) := by
  refine conforms.replace found advances.target (advances.dutiful (conforms.dutiful _ _ found))
    (advances.inOrder (conforms.ordered _ _ found)) ?_
  intro source
  obtain ⟨front, rest⟩ := conforms.receives _ _ found source
  rw [← advances.history.1] at front rest
  exact ⟨front, fun _ => rest advances.running⟩

/-- The channels change that subscribers write to. -/
theorem channels (conforms : Conforms s) {requests : List Subscription}
    {unsubscriptions : UnsubChannel → List Unsubscription}
    (queued : ∀ sub ∈ requests, s.Owned sub) :
    Conforms { s with requests, unsubscriptions } :=
  { conforms with queued }

/-- A subscriber gets through with one of its sends. -/
theorem send {number : Nat} {party : Party} {first : HandlerEffect} {rest : List HandlerEffect}
    (conforms : Conforms s) (found : s.parties[number]? = some party)
    (waiting : party.outbox = first :: rest) :
    Conforms (s.effect number { party with outbox := rest } first) := by
  obtain ⟨serves, own⟩ := conforms.dutiful _ _ found
  obtain ⟨taken, arrived, sent⟩ := conforms.ordered _ _ found
  rw [waiting] at own sent
  have replaced (forwarded : List Json) (reported : List RouterError)
      (passed : (forwarded ++ rest.filterMap HandlerEffect.notified).Sublist
        (taken.filterMap PubsubMessage.payload)) :
      Conforms (s.replace number { party with outbox := rest, forwarded, reported }) := by
    refine conforms.replace found rfl ⟨serves, ?_⟩ ⟨taken, arrived, passed⟩ ?_
    · intro sub member
      exact own sub (List.mem_cons_of_mem _ member)
    · intro source
      obtain ⟨front, rest⟩ := conforms.receives _ _ found source
      exact ⟨front, rest⟩
  cases first with
  | dispatch sub =>
    have next := replaced party.forwarded party.reported sent
    apply next.channels
    intro other member
    rcases List.mem_append.mp member with earlier | now
    · exact next.queued other earlier
    · rw [List.mem_singleton.mp now]
      obtain ⟨inside, _⟩ := List.getElem?_eq_some_iff.mp found
      obtain ⟨channel, target⟩ := own sub List.mem_cons_self
      refine ⟨{ party with outbox := rest }, ?_, target⟩
      rw [channel]
      exact List.getElem?_set_self inside
  | unsubscribe connection unsub =>
    have next := replaced party.forwarded party.reported sent
    exact next.channels next.queued
  | notify payload =>
    apply replaced
    rw [List.append_assoc]
    exact sent
  | report error => exact replaced _ _ sent

/-- The network changes, but not the logs of connections. -/
theorem network {after : Network} (conforms : Conforms s)
    (entered : ∀ pool, ∀ sub ∈ after.entered pool, s.Owned sub)
    (logs : ∀ source, log after source = log s.network source) :
    Conforms { s with network := after } where
  dutiful := conforms.dutiful
  ordered := conforms.ordered
  queued := conforms.queued
  entered := entered
  carried source := by
    rw [logs]
    exact conforms.carried source
  receives number party found source := by
    rw [logs]
    exact conforms.receives number party found source

theorem dispatch {after : Network} {oldest : Subscription} {rest : List Subscription}
    (conforms : Conforms s) (coupled : s.network.Coupled) (queued : s.requests = oldest :: rest)
    (moved : Network.Step s.network (.request oldest) after) :
    Conforms { s with network := after, requests := rest } := by
  have listed := conforms.queued
  rw [queued] at listed
  have next : Conforms { s with network := after } := by
    refine conforms.network ?_ fun source => log_step coupled moved source nofun
    intro pool sub member
    rcases moved.entered pool with same | ⟨request, named, grown⟩
    · exact conforms.entered pool sub (same ▸ member)
    · cases named
      rw [grown] at member
      rcases List.mem_append.mp member with earlier | now
      · exact conforms.entered pool sub earlier
      · exact List.mem_singleton.mp now ▸ listed _ List.mem_cons_self
  exact next.channels fun sub member => listed sub (List.mem_cons_of_mem _ member)

/-- A connection goes through an iteration. -/
theorem iterate {after : Network} {source : Source} {event : Event} {session : Session}
    {unsubs : UnsubChannel → List Unsubscription} (conforms : Conforms s)
    (coupled : s.network.Coupled) (idle : s.courier source = [])
    (found : (s.network.members source.pool)[source.member]? = some session)
    (moved : Network.Step s.network (.iterate source.pool source.member event) after) :
    Conforms { s with
      network := after
      unsubscriptions := unsubs
      courier := Function.update s.courier source
        (sends ((log after source).drop session.log.length)) } := by
  have entered (pool : PoolId) : after.entered pool = s.network.entered pool := by
    rcases moved.entered pool with same | ⟨_, named, _⟩
    · exact same
    · cases named
  have others (other : Source) (elsewhere : other ≠ source) :
      log after other = log s.network other := by
    apply log_step coupled moved other
    intro event named
    injection named with pool member
    exact elsewhere (Source.ext pool.symm member.symm)
  obtain ⟨before, grown⟩ := log_iterate found moved
  have sent : sends (log after source) = sends (log s.network source) ++
      sends ((log after source).drop session.log.length) := by
    rw [grown, before, List.drop_left, sends_append]
  refine ⟨conforms.dutiful, conforms.ordered, conforms.queued, ?_, ?_, ?_⟩
  · intro pool sub member
    exact conforms.entered pool sub (entered pool ▸ member)
  · intro other
    by_cases here : other = source
    · subst here
      simp only [Function.update_self]
      rw [sent]
      exact List.suffix_append _ _
    · simp only [Function.update_of_ne here]
      rw [others other here]
      exact conforms.carried other
  · intro number party present other
    obtain ⟨front, rest⟩ := conforms.receives number party present other
    by_cases here : other = source
    · subst here
      simp only [Function.update_self]
      rw [sent]
      constructor
      · rw [share_append]
        exact front.trans (List.prefix_append _ _)
      · intro running
        have all := rest running
        rw [idle] at all
        rw [share_append, ← all]
        simp [share]
    · simp only [Function.update_of_ne here]
      rw [others other here]
      exact ⟨front, rest⟩

/-- A connection puts a message into the channel of a subscriber. -/
theorem deliver {source : Source} {tx : Channel} {message : PubsubMessage}
    {rest : List (Channel × PubsubMessage)} {party : Party} (conforms : Conforms s)
    (carried : s.courier source = (tx, message) :: rest)
    (found : s.parties[tx.id]? = some party) :
    Conforms (Router.replace { s with courier := Function.update s.courier source rest } tx.id
      (party.accept source message)) := by
  have target : (party.accept source message).target = party.target := by
    unfold Party.accept
    split
    · rfl
    · rfl
  refine conforms.exchange found target
    (Party.accept_dutiful (conforms.dutiful _ _ found) source message)
    (Party.accept_inOrder (conforms.ordered _ _ found) source message) ?_ ?_ ?_
  · intro other
    by_cases here : other = source
    · subst here
      have suffix := conforms.carried other
      rw [carried] at suffix
      rw [Function.update_self]
      exact (List.suffix_cons _ _).trans suffix
    · rw [Function.update_of_ne here]
      exact conforms.carried other
  · intro other
    obtain ⟨front, left⟩ := conforms.receives _ _ found other
    by_cases here : other = source
    · subst here
      rw [Function.update_self]
      rw [carried, share_cons, if_pos rfl] at left
      unfold Party.accept
      cases ended : party.phase.isEnded with
      | true =>
        rw [if_pos rfl]
        exact ⟨front, fun running => absurd (ended.symm.trans running) (by decide)⟩
      | false =>
        rw [if_neg Bool.false_ne_true]
        have all := left ended
        rw [← List.append_assoc] at all
        constructor
        · rw [share_snoc, if_pos rfl]
          exact ⟨_, all⟩
        · intro _
          rw [share_snoc, if_pos rfl]
          exact all
    · rw [Function.update_of_ne here]
      unfold Party.accept
      split
      · exact ⟨front, left⟩
      · constructor
        · rw [share_snoc, if_neg (Ne.symm here), List.append_nil]
          exact front
        · rw [share_snoc, if_neg (Ne.symm here), List.append_nil]
          exact left
  · intro number had other present source'
    obtain ⟨front, left⟩ := conforms.receives _ _ present source'
    by_cases here : source' = source
    · subst here
      have elsewhere : tx ≠ ⟨number⟩ := by
        rintro rfl
        exact other rfl
      rw [carried, share_cons, if_neg elsewhere, List.nil_append] at left
      rw [Function.update_self]
      exact ⟨front, left⟩
    · rw [Function.update_of_ne here]
      exact ⟨front, left⟩

theorem join {labels : List Network.Action} {id : RequestId} {target : SubscriptionTarget}
    {phase : Phase} {dispatched : List Subscription} (conforms : Conforms s)
    (run : Run (Fires Network.step) (.new count) labels s.network)
    (begins : Begins lib transactionLib s.fresh id target phase dispatched) :
    Conforms (s.join target phase dispatched) := by
  have stay : Extends s (s.join target phase dispatched) :=
    fun number party found => ⟨party, joined_stays found, rfl⟩
  have silent (source : Source) :
      share (sends (log s.network source)) (⟨s.parties.length⟩ : Channel) = [] := by
    apply share_eq_nil
    intro entry sent same
    have inside := sends_known run conforms.entered sent
    rw [same] at inside
    exact Nat.lt_irrefl _ inside
  refine ⟨forall_joined ?_ conforms.dutiful, forall_joined ?_ conforms.ordered, ?_, ?_,
    conforms.carried, forall_joined ?_ conforms.receives⟩
  · obtain ⟨serves, own⟩ := begins.dutiful
    refine ⟨serves, ?_⟩
    intro sub member
    obtain ⟨_, listed, same⟩ := List.mem_map.mp member
    cases same
    exact own sub listed
  · refine ⟨[], rfl, ?_⟩
    rw [List.nil_append, List.filterMap_eq_nil_iff.mpr]
    · exact List.Sublist.slnil
    · intro effect member
      obtain ⟨_, _, rfl⟩ := List.mem_map.mp member
      rfl
  · intro sub member
    exact (conforms.queued sub member).extend stay
  · intro pool sub member
    exact (conforms.entered pool sub member).extend stay
  · intro source
    obtain ⟨delivered, parts⟩ := conforms.carried source
    have nothing := silent source
    rw [← parts, share_append] at nothing
    refine ⟨List.nil_prefix, fun _ => ?_⟩
    exact (List.append_eq_nil_iff.mp nothing).2.trans (silent source).symm

theorem initial (count : Nat) : Conforms (new count) := by
  have none (number : Nat) (party : Party) : (new count).parties[number]? ≠ some party := by
    simp [new]
  exact {
    dutiful := fun number party found => absurd found (none number party)
    ordered := fun number party found => absurd found (none number party)
    queued := List.forall_mem_nil _
    entered := fun _ => List.forall_mem_nil _
    carried := fun _ => List.suffix_rfl
    receives := fun number party found => absurd found (none number party) }

theorem step {labels : List Network.Action} (conforms : Conforms s)
    (run : Run (Fires Network.step) (.new count) labels s.network)
    (step : Step lib transactionLib s action t) : Conforms t := by
  have coupled := Network.Coupled.reached run
  cases step with
  | join _ _ begins => exact conforms.join run begins
  | refuse => exact { conforms with }
  | party found stepped => exact conforms.party found (Party.step_advances stepped)
  | send found waiting => exact conforms.send found waiting
  | network moved connects requests _ =>
    have change := Network.step_sound moved
    refine conforms.network ?_ fun source => log_step coupled change source (connects _ _)
    intro pool sub member
    rcases change.entered pool with same | ⟨request, named, _⟩
    · exact conforms.entered pool sub (same ▸ member)
    · exact absurd named (requests request)
  | dispatch queued moved => exact conforms.dispatch coupled queued (Network.step_sound moved)
  | iterate idle found unsubscribes moved =>
    exact conforms.iterate coupled idle found (Network.step_sound moved)
  | lose carried absent =>
    -- messages are for subscribers only
    rename_i source tx message rest
    have sent : (tx, message) ∈ sends (log s.network source) :=
      (conforms.carried source).subset (carried ▸ List.mem_cons_self)
    have inside := sends_known run conforms.entered sent
    exact absurd absent (by simp [inside])
  | deliver carried found => exact conforms.deliver carried found

theorem reached (run : Run (Fires (Router.step lib transactionLib)) (new count) actions s) :
    Conforms s := by
  induction run with
  | nil => exact .initial count
  | snoc earlier last ih =>
    obtain ⟨labels, moved⟩ := network_run earlier
    exact ih.step moved (step_sound last)

end Conforms

/-- What a subscriber has received was sent to it by a connection, which had reason to
by what it did before. -/
theorem arrived_origin {labels : List Network.Action} (conforms : Conforms s)
    (run : Run (Fires Network.step) (.new count) labels s.network) {number : Nat} {party : Party}
    (found : s.parties[number]? = some party) {source : Source} {message : PubsubMessage}
    (arrived : (source, message) ∈ party.arrived) :
    ∃ (session : Session) (subscriber : SubscriberId) (before after : List Deed),
      (s.network.members source.pool)[source.member]? = some session ∧
      session.log.map Emission.deed =
        before ++ .deliver subscriber ⟨number⟩ message true :: after ∧
      session.connection.url = (s.network.dispatcher.pools source.pool).url ∧
      Origin session.connection.id before (.deliver subscriber ⟨number⟩ message true) := by
  have share := (conforms.receives _ _ found source).front.subset (mem_share.mpr arrived)
  obtain ⟨subscriber, deed⟩ := mem_sends (mem_share.mp share)
  cases present : (s.network.members source.pool)[source.member]? with
  | none => simp [log, present] at deed
  | some session =>
    have same : log s.network source = session.log := by simp [log, present]
    rw [same] at deed
    obtain ⟨before, after, parts⟩ := List.append_of_mem deed
    obtain ⟨address, origin⟩ := Network.deed_origin run present parts
    exact ⟨session, subscriber, before, after, rfl, parts, address, origin⟩

/-- What a client is notified of is the payload of a frame some connection has read. -/
theorem forwarded_origin
    (run : Run (Fires (step lib transactionLib)) (new count) actions s) {number : Nat}
    {party : Party} (found : s.parties[number]? = some party) {payload : Json}
    (sent : payload ∈ party.forwarded) :
    ∃ (pool : PoolId) (member : Nat) (session : Session) (sub : Subscription)
      (subid : SubscriptionId) (past between after : List Deed) (frame : Json),
      (s.network.members pool)[member]? = some session ∧
      session.log.map Emission.deed = past ++ .receive (some frame) :: between ++
        .deliver sub.subscriberId ⟨number⟩
          (.notification sub.requestId sub.upstream payload) true :: after ∧
      WebsocketMessage.deserialize frame = some (.notification ⟨payload, subid⟩) ∧
      Attending sub subid past ∧ sub.tx = ⟨number⟩ ∧ sub.target = party.target ∧
      sub.destination = session.connection.url := by
  have conforms := Conforms.reached run
  obtain ⟨labels, moved⟩ := network_run run
  obtain ⟨taken, arrived, passed⟩ := conforms.ordered _ _ found
  -- the notification it was taken from
  obtain ⟨message, received, named⟩ :=
    List.mem_filterMap.mp (passed.subset (List.mem_append_left _ sent))
  obtain ⟨id, upstream, rfl⟩ : ∃ id upstream, message = .notification id upstream payload := by
    cases message with
    | notification id upstream other =>
      cases named
      exact ⟨id, upstream, rfl⟩
    | subscribed _ | disconnected _ => cases named
  have listed : .notification id upstream payload ∈ party.arrived.map Prod.snd :=
    arrived ▸ List.mem_append_left _ received
  obtain ⟨⟨source, _⟩, entry, rfl⟩ := List.mem_map.mp listed
  obtain ⟨session, subscriber, _, after, present, parts, address, origin⟩ :=
    arrived_origin conforms moved found entry
  obtain ⟨sub, subid, past, between, frame, rfl, attending, reads, rfl, tx, rfl, rfl⟩ :=
    origin.of_notification
  -- the subscription was given to the pool of the connection
  have logged : .take sub ∈ session.log.map Emission.deed := by
    rw [parts]
    exact List.mem_append_left _ (List.mem_append_left _ attending.taken)
  have entered := Network.taken_entered (.reached moved) present logged
  obtain ⟨owner, holds, target⟩ := conforms.entered _ sub entered
  have destination := ((Network.Coupled.reached moved).staffed _).addressed sub entered
  rw [tx, found] at holds
  cases holds
  exact ⟨source.pool, source.member, session, sub, subid, past, between, after, frame, present,
    parts, reads, attending, tx, target, destination.trans address.symm⟩

/-- An account that the delegation program does not own is reported under an id. -/
def accountNotification (subid : SubscriptionId) : Json :=
  .obj [("method", .str "accountNotification"),
    ("params", .obj [("result", .obj [("value", .obj [("owner", .str "owner")])]),
      ("subscription", .num subid)])]

/-- A client subscribes to an account and is confirmed under id 5. -/
def confirmedOnce : List Action :=
  [.state { isOnline := true, url := RoutingTable.sampleChain.wsUrl, target := .chain },
    .completed 0 [true],
    .accountSubscribe HandlerRun.undelegatedContext (.repeating 1) none, .send 0, .dispatch,
    .iterate ⟨0, 0⟩ (calm (.request { Sources.chainSub with tx := ⟨0⟩ })),
    .iterate ⟨0, 0⟩ (calm (.received (.data (some (confirmation 2 5))))), .deliver ⟨0, 0⟩,
    .party 0 (.message HandlerRun.delegatedContext true)]

/-- The client is then notified once. -/
def notifiedOnce : List Action :=
  confirmedOnce ++
    [.iterate ⟨0, 0⟩ (calm (.received (.data (some (accountNotification 5))))), .deliver ⟨0, 0⟩,
      .party 0 (.message HandlerRun.undelegatedContext true), .send 0]

/-- In any run, what a client is notified of is taken from its channel in order, each
notification at most once. What the channel has received from a connection is what the
connection has sent to this client, in order and without gaps; before the client's
handler ends, all of it has arrived but what the connection is about to hand over. -/
theorem client_receives_in_order
    (run : Run (Fires (step lib transactionLib)) (new count) actions s) {number : Nat}
    {party : Party} (found : s.parties[number]? = some party) :
    (∃ taken, party.arrived.map Prod.snd = taken ++ party.inbox ∧
      party.forwarded.Sublist (taken.filterMap PubsubMessage.payload)) ∧
    ∀ source,
      share party.arrived source <+: share (sends (log s.network source)) ⟨number⟩ ∧
      (party.phase.isEnded = false →
        share party.arrived source ++ share (s.courier source) ⟨number⟩ =
          share (sends (log s.network source)) ⟨number⟩) := by
  have conforms := Conforms.reached run
  obtain ⟨taken, arrived, passed⟩ := conforms.ordered _ _ found
  refine ⟨⟨taken, arrived, (List.sublist_append_left _ _).trans passed⟩, ?_⟩
  intro source
  obtain ⟨front, rest⟩ := conforms.receives _ _ found source
  exact ⟨front, rest⟩

theorem client_receives_both :
    ∃ s party, Run (Fires (step Subscriber.sampleLibrary Subscriber.sampleTransactionLibrary))
        (new 1) notifiedOnce s ∧
      s.parties[0]? = some party ∧ party.arrived.length = 2 ∧
      share party.arrived ⟨0, 0⟩ ++ share (s.courier ⟨0, 0⟩) ⟨0⟩ =
        share (sends (log s.network ⟨0, 0⟩)) ⟨0⟩ := by
  obtain ⟨s, run, checked⟩ := exists_run_of_exec
    (show (exec (step Subscriber.sampleLibrary Subscriber.sampleTransactionLibrary) (new 1)
      notifiedOnce).map (fun s => (s.parties[0]?).any fun party =>
        decide (party.arrived.length = 2) && !party.phase.isEnded) = some true by decide +kernel)
  obtain ⟨party, found, facts⟩ := (Option.any_eq_true _ _).mp checked
  obtain ⟨two, running⟩ := Bool.and_eq_true_iff.mp facts
  obtain ⟨_, received⟩ := client_receives_in_order run found
  refine ⟨s, party, run, found, of_decide_eq_true two, (received ⟨0, 0⟩).2 ?_⟩
  simpa using running

end Router

end MagicRouter
