import MagicRouter.Server.Delivery
import MagicRouter.Server.Identifiers

/-! What leaving clients cancel. A subscriber unsubscribes only what a connection has
confirmed to it, at that connection; and as no request id is drawn twice, what the
connection then cancels upstream was confirmed for a request of the same subscriber. -/

namespace MagicRouter

open Library Connection

/-- The confirmations a handler keeps are ones that were received, under their ids. -/
def AccountSubscriptionHandler.Holds (handler : AccountSubscriptionHandler)
    (received : List PubsubMessage) : Prop :=
  ∀ request handle, handler.handles.lookup request = some handle →
    handle.requestId = request ∧ .subscribed handle ∈ received

/-- The unsubscription goes to the connection that has confirmed its request. -/
def Unsubscription.Returns (unsub : Unsubscription) (connection : UnsubChannel)
    (received : List PubsubMessage) : Prop :=
  ∃ handle : SubscriptionHandle, .subscribed handle ∈ received ∧ handle.unsub = connection ∧
    handle.requestId = unsub.requestId

theorem Unsubscription.Returns.mono {unsub : Unsubscription} {connection : UnsubChannel}
    {received more : List PubsubMessage} (returns : unsub.Returns connection received)
    (included : received ⊆ more) : unsub.Returns connection more := by
  obtain ⟨handle, confirmed, facts⟩ := returns
  exact ⟨handle, included confirmed, facts⟩

def Phase.Holds (received : List PubsubMessage) : Phase → Prop
  | .accountPending pending => pending.handler.Holds received
  | .account handler => handler.Holds received
  | .signature handler => .subscribed handler.handle ∈ received
  | .registry _ | .signaturePending _ | .ended => True

namespace AccountSubscriptionHandler

variable {received : List PubsubMessage} {handler : AccountSubscriptionHandler}

theorem Holds.mono (holds : handler.Holds received) {more : List PubsubMessage}
    (included : received ⊆ more) : handler.Holds more := by
  intro request handle found
  obtain ⟨same, confirmed⟩ := holds request handle found
  exact ⟨same, included confirmed⟩

theorem Holds.erase (holds : handler.Holds received) (request : RequestId) :
    Holds { handler with handles := handler.handles.erase request } received := by
  intro other handle found
  rw [Store.lookup_erase_if] at found
  split at found
  · cases found
  · exact holds other handle found

theorem Holds.insert (holds : handler.Holds received) {handle : SubscriptionHandle}
    (confirmed : .subscribed handle ∈ received) :
    Holds { handler with handles := handler.handles.insert handle.requestId handle } received := by
  intro other had found
  rw [Store.lookup_insert_if] at found
  split at found
  · rename_i same
    cases found
    exact ⟨same.symm, confirmed⟩
  · exact holds other had found

/-- A handler that takes a received message keeps to received confirmations, and what
it unsubscribes is one of them. -/
theorem Holds.receive (holds : handler.Holds received) (context : HandlerContext)
    {message : PubsubMessage} (present : message ∈ received) :
    (handler.receive context message).handler.Holds received ∧
      ∀ connection unsub,
        .unsubscribe connection unsub ∈ (handler.receive context message).effects →
          unsub.Returns connection received := by
  cases message with
  | subscribed handle =>
    refine ⟨holds.insert present, ?_⟩
    intro connection unsub member
    cases member
  | notification id upstream payload =>
    have changed : (handler.handleDelegationStatusChange context payload id upstream).1.Holds
        received ∧ ∀ connection unsub, .unsubscribe connection unsub ∈
          (handler.handleDelegationStatusChange context payload id upstream).2 →
            unsub.Returns connection received := by
      obtain same | ⟨_, _, _, _, _, same⟩ | ⟨handle, _, found, same⟩ :=
        handleDelegationStatusChange_cases context handler payload id upstream
      · rw [same]
        exact ⟨holds, fun _ _ member => absurd member List.not_mem_nil⟩
      · rw [same]
        refine ⟨holds, ?_⟩
        intro connection unsub member
        cases List.mem_singleton.mp member
      · rw [same]
        refine ⟨holds.erase id, ?_⟩
        intro connection unsub member
        cases List.mem_singleton.mp member
        obtain ⟨own, confirmed⟩ := holds id handle found
        exact ⟨handle, confirmed, rfl, own⟩
    simp only [AccountSubscriptionHandler.receive]
    split
    · exact changed
    · split
      · refine ⟨changed.1, ?_⟩
        intro connection unsub member
        rcases List.mem_append.mp member with earlier | last
        · exact changed.2 connection unsub earlier
        · cases List.mem_singleton.mp last
      · exact changed
  | disconnected id =>
    simp only [AccountSubscriptionHandler.receive]
    split
    · exact ⟨holds, fun _ _ member => absurd member List.not_mem_nil⟩
    · refine ⟨holds.erase id, ?_⟩
      intro connection unsub member
      obtain ⟨url, _, same⟩ := List.mem_map.mp member
      cases same

/-- A handler subscribes under a new request id, or under that of a confirmation it keeps. -/
theorem receive_requestId (context : HandlerContext) (message : PubsubMessage) {sub : Subscription}
    (dispatched : .dispatch sub ∈ (handler.receive context message).effects) :
    handler.generates context message = true ∧ sub.requestId = context.requestId ∨
      ∃ request handle, handler.handles.lookup request = some handle ∧
        sub.requestId = handle.requestId := by
  cases message with
  | subscribed handle => cases dispatched
  | notification id upstream payload =>
    have changed : .dispatch sub ∈
        (handler.handleDelegationStatusChange context payload id upstream).2 := by
      simp only [AccountSubscriptionHandler.receive] at dispatched
      split at dispatched
      · exact dispatched
      · split at dispatched
        · simpa using dispatched
        · exact dispatched
    obtain same | ⟨_, node, _, _, _, same⟩ | ⟨_, _, _, same⟩ :=
      handleDelegationStatusChange_cases context handler payload id upstream
    · rw [same] at changed
      cases changed
    · refine .inl ⟨?_, ?_⟩
      · rw [AccountSubscriptionHandler.generates, same]
        rfl
      · rw [same] at changed
        cases List.mem_singleton.mp changed
        rfl
    · rw [same] at changed
      cases List.mem_singleton.mp changed
  | disconnected id =>
    simp only [AccountSubscriptionHandler.receive] at dispatched
    split at dispatched
    · cases dispatched
    · rename_i handle found
      obtain ⟨url, _, same⟩ := List.mem_map.mp dispatched
      cases same
      exact .inr ⟨id, handle, found, rfl⟩

end AccountSubscriptionHandler

theorem Phase.Holds.mono {phase : Phase} {received more : List PubsubMessage}
    (holds : phase.Holds received) (included : received ⊆ more) : phase.Holds more := by
  cases phase with
  | accountPending pending => exact AccountSubscriptionHandler.Holds.mono holds included
  | account handler => exact AccountSubscriptionHandler.Holds.mono holds included
  | signature handler => exact included holds
  | registry _ | signaturePending _ | ended => trivial

/-- The updater stays with its request id. -/
theorem Updater.receive_requestId (lib : UpdaterLibrary) (updater : Updater)
    (message : PubsubMessage) (probe : Bool) :
    (updater.receive lib message probe).1.subscription.requestId =
      updater.subscription.requestId := by
  cases message with
  | subscribed handle => rfl
  | notification id upstream payload =>
    simp only [receive]
    split
    · rfl
    · rfl
  | disconnected id => rfl

namespace Party

/-- What its channel has received, in order. -/
def received (party : Party) : List PubsubMessage := party.arrived.map Prod.snd

/-- A subscriber holds and gives back nothing but confirmations it has received. -/
structure Holds (party : Party) : Prop where
  phase : party.phase.Holds party.received
  outbox : ∀ connection unsub, .unsubscribe connection unsub ∈ party.outbox →
    unsub.Returns connection party.received

/-- The requests of a subscriber are its own. -/
structure Within (own : RequestId → Prop) (party : Party) : Prop where
  phase : ∀ updater, party.phase = .registry updater → own updater.subscription.requestId
  outbox : ∀ sub, .dispatch sub ∈ party.outbox → own sub.requestId

variable {lib : UpdaterLibrary} {party next : Party} {own : RequestId → Prop}

/-- A phase that is reached without unsubscribing anything. -/
theorem Holds.proceed {phase : Phase} {effects : List HandlerEffect} {rest : List PubsubMessage}
    (holds : phase.Holds party.received)
    (returns : ∀ connection unsub, .unsubscribe connection unsub ∈ effects →
      unsub.Returns connection party.received) :
    Holds ({ party with inbox := rest }.proceed phase effects) :=
  ⟨holds, returns⟩

theorem Holds.take {context : HandlerContext} {probe : Bool} {message : PubsubMessage}
    {rest : List PubsubMessage} (holds : party.Holds) (present : message ∈ party.received)
    (taken : { party with inbox := rest }.take lib context probe message = some next) :
    next.Holds := by
  unfold Party.take at taken
  cases phase : party.phase with
  | registry updater =>
    simp only [phase] at taken
    cases taken
    refine Holds.proceed trivial ?_
    intro connection unsub member
    obtain ⟨_, _, same⟩ := List.mem_map.mp member
    cases same
  | accountPending pending =>
    have held := holds.phase
    simp only [phase] at taken held
    split at taken
    · rename_i handler started
      cases taken
      refine Holds.proceed ?_ nofun
      cases message with
      | subscribed handle =>
        cases started
        exact AccountSubscriptionHandler.Holds.insert held present
      | notification _ _ _ => cases started
      | disconnected _ => cases started
    · cases taken
      exact Holds.proceed trivial nofun
  | account handler =>
    have held := holds.phase
    simp only [phase] at taken held
    cases taken
    obtain ⟨kept, returns⟩ := AccountSubscriptionHandler.Holds.receive held context present
    refine Holds.proceed ?_ returns
    split
    · exact kept
    · trivial
  | signaturePending pending =>
    simp only [phase] at taken
    cases taken
    cases message with
    | subscribed handle => exact Holds.proceed present nofun
    | notification _ _ _ | disconnected _ =>
      refine Holds.proceed trivial ?_
      intro connection unsub member
      cases List.mem_singleton.mp member
  | signature handler =>
    simp only [phase] at taken
    cases taken
    refine Holds.proceed trivial ?_
    intro connection unsub member
    cases message with
    | subscribed _ => cases member
    | disconnected _ => cases member
    | notification _ _ payload =>
      simp only [SignatureSubscriptionHandler.run] at member
      split at member
      · cases List.mem_singleton.mp member
      · cases member
  | ended =>
    simp only [phase] at taken
    cases taken

theorem Holds.step {event : PartyEvent} (holds : party.Holds) (ordered : party.InOrder)
    (stepped : party.step lib event = some next) : next.Holds := by
  unfold Party.step at stepped
  split at stepped
  · cases event with
    | message context probe =>
      simp only at stepped
      split at stepped
      · cases stepped
      · rename_i message rest inbox
        obtain ⟨taken, arrived, _⟩ := ordered
        refine holds.take ?_ stepped
        rw [Party.received, arrived, inbox]
        exact List.mem_append_right _ List.mem_cons_self
    | maintenance event =>
      simp only at stepped
      split at stepped
      all_goals try cases stepped
      all_goals
        obtain ⟨after, _, rfl⟩ := Option.map_eq_some_iff.mp stepped
        refine Holds.proceed trivial ?_
        intro connection unsub member
        obtain ⟨_, _, same⟩ := List.mem_map.mp member
        cases same
    | closed routes =>
      simp only at stepped
      split at stepped
      · rename_i handler phase
        cases stepped
        have held := holds.phase
        rw [phase] at held
        refine Holds.proceed trivial ?_
        intro connection unsub member
        obtain ⟨entry, listed, same⟩ := List.mem_map.mp member
        cases same
        obtain ⟨own, confirmed⟩ := held _ _ (Store.mem_entries_iff.mp listed)
        exact ⟨entry.2, confirmed, rfl, own⟩
      · rename_i handler phase
        cases stepped
        have held := holds.phase
        rw [phase] at held
        refine Holds.proceed trivial ?_
        intro connection unsub member
        cases List.mem_singleton.mp member
        exact ⟨handler.handle, held, rfl, rfl⟩
      · cases stepped
    | timeout =>
      simp only at stepped
      split at stepped
      all_goals cases stepped
      · exact Holds.proceed trivial nofun
      · refine Holds.proceed trivial ?_
        intro connection unsub member
        cases List.mem_singleton.mp member
      · exact Holds.proceed trivial nofun
  · cases stepped

/-- A subscriber that goes on as something else than the updater, dispatching nothing. -/
theorem Within.silent {phase : Phase} {effects : List HandlerEffect} {rest : List PubsubMessage}
    (plain : ∀ updater, phase ≠ .registry updater) (none : ∀ sub, .dispatch sub ∉ effects) :
    Within own ({ party with inbox := rest }.proceed phase effects) where
  phase updater same := absurd same (plain updater)
  outbox sub member := absurd member (none sub)

theorem Within.take {context : HandlerContext} {probe : Bool} {message : PubsubMessage}
    {rest : List PubsubMessage} (within : party.Within own) (holds : party.Holds)
    (confirmed : ∀ handle, .subscribed handle ∈ party.received → own handle.requestId)
    (drawn : ∀ handler, party.phase = .account handler →
      handler.generates context message = true → own context.requestId)
    (taken : { party with inbox := rest }.take lib context probe message = some next) :
    next.Within own := by
  unfold Party.take at taken
  cases phase : party.phase with
  | registry updater =>
    simp only [phase] at taken
    cases taken
    have kept : own (updater.receive lib message probe).1.subscription.requestId := by
      rw [updater.receive_requestId lib message probe]
      exact within.phase updater phase
    obtain ⟨_, _, only⟩ := updater.receive_subscription lib message probe
    constructor
    · rintro _ ⟨⟩
      exact kept
    · intro sub member
      obtain ⟨_, listed, same⟩ := List.mem_map.mp member
      cases same
      exact only sub listed ▸ kept
  | accountPending pending =>
    simp only [phase] at taken
    split at taken
    · cases taken
      exact .silent nofun fun _ => List.not_mem_nil
    · cases taken
      exact .silent nofun fun _ => List.not_mem_nil
  | account handler =>
    have held := holds.phase
    simp only [phase] at taken held
    cases taken
    constructor
    · intro updater same
      simp only [proceed] at same
      split at same <;> cases same
    · intro sub member
      rcases handler.receive_requestId context message member with
        ⟨draws, fresh⟩ | ⟨_, handle, found, old⟩
      · exact fresh ▸ drawn handler phase draws
      · exact old ▸ confirmed handle (held _ _ found).2
  | signaturePending pending =>
    simp only [phase] at taken
    cases taken
    cases message with
    | subscribed _ => exact .silent nofun fun _ => List.not_mem_nil
    | notification _ _ _ | disconnected _ =>
      refine .silent nofun ?_
      intro sub member
      cases List.mem_singleton.mp member
  | signature handler =>
    simp only [phase] at taken
    cases taken
    refine .silent nofun ?_
    intro sub member
    have none := SignatureRun.run_dispatches_nothing handler
      (.message message context.serialized context.delivered)
    cases List.filterMap_eq_nil_iff.mp none _ member
  | ended =>
    simp only [phase] at taken
    cases taken

theorem Within.step {event : PartyEvent} (within : party.Within own) (holds : party.Holds)
    (confirmed : ∀ handle, .subscribed handle ∈ party.received → own handle.requestId)
    (drawn : ∀ ids, party.generated event = some ids → own ids.2)
    (stepped : party.step lib event = some next) : next.Within own := by
  unfold Party.step at stepped
  split at stepped
  · cases event with
    | message context probe =>
      simp only at stepped
      split at stepped
      · cases stepped
      · rename_i message rest queued
        refine within.take holds confirmed ?_ stepped
        intro handler phase draws
        refine drawn (context.subscriberId, context.requestId) ?_
        simp only [Party.generated, phase, queued, draws, if_true]
    | maintenance event =>
      have kept {updater : Updater} {event : UpdaterEvent} (phase : party.phase = .registry updater)
          (quiet : ∀ message probe, event ≠ .message message probe)
          (stepped : (updater.handle lib event).map (fun next =>
            party.proceed (.registry next.1) (next.2.dispatched.map .dispatch)) = some next) :
          next.Within own := by
        obtain ⟨after, handled, rfl⟩ := Option.map_eq_some_iff.mp stepped
        obtain ⟨same, none⟩ := Updater.handle_quiet quiet handled
        constructor
        · rintro _ ⟨⟩
          exact same ▸ within.phase updater phase
        · intro sub member
          obtain ⟨_, listed, _⟩ := List.mem_map.mp member
          cases none ▸ listed
      simp only at stepped
      split at stepped
      · refine kept ‹_› ?_ stepped
        exact nofun
      · refine kept ‹_› ?_ stepped
        exact nofun
      · cases stepped
    | closed routes =>
      simp only at stepped
      split at stepped
      · cases stepped
        refine .silent nofun ?_
        intro sub member
        obtain ⟨_, _, same⟩ := List.mem_map.mp member
        cases same
      · cases stepped
        refine .silent nofun ?_
        intro sub member
        cases List.mem_singleton.mp member
      · cases stepped
    | timeout =>
      simp only at stepped
      split at stepped
      all_goals cases stepped
      · exact .silent nofun fun _ => List.not_mem_nil
      · refine .silent nofun ?_
        intro sub member
        cases List.mem_singleton.mp member
      · exact .silent nofun fun _ => List.not_mem_nil
  · cases stepped

theorem Within.mono {more : RequestId → Prop} (within : party.Within own)
    (wider : ∀ id, own id → more id) : party.Within more where
  phase updater same := wider _ (within.phase updater same)
  outbox sub member := wider _ (within.outbox sub member)

end Party

namespace Router

variable {lib : UpdaterLibrary} {transactionLib : TransactionLibrary} {s t : Router}
variable {action : Action} {actions : List Action} {count : Nat}
variable {owner : RequestId → Nat} {drawn : List RequestId}

/-- The request id was drawn, for this subscriber. -/
def Ours (owner : RequestId → Nat) (drawn : List RequestId) (number : Nat) (id : RequestId) : Prop :=
  id ∈ drawn ∧ owner id = number

/-- Every request id in use is that of one subscriber, which dispatches it and is
confirmed under it; what is on its way to a connection returns a confirmation of it. -/
structure Apart (owner : RequestId → Nat) (drawn : List RequestId) (s : Router) : Prop where
  holds : ∀ (number : Nat) (party : Party), s.parties[number]? = some party → party.Holds
  within : ∀ (number : Nat) (party : Party), s.parties[number]? = some party →
    party.Within (Ours owner drawn number)
  queued : ∀ sub ∈ s.requests, Ours owner drawn sub.tx.id sub.requestId
  entered : ∀ pool, ∀ sub ∈ s.network.entered pool, Ours owner drawn sub.tx.id sub.requestId
  returned : ∀ channel, ∀ unsub ∈ s.unsubscriptions channel, ∃ (number : Nat) (party : Party),
    s.parties[number]? = some party ∧ unsub.Returns channel party.received

/-- A confirmation a subscriber has received was sent by the connection it names, for a
subscription of the subscriber that was given to the pool. -/
theorem confirmation_origin (conforms : Conforms s) {labels : List Network.Action}
    (run : Run (Fires Network.step) (.new count) labels s.network) {number : Nat} {party : Party}
    (found : s.parties[number]? = some party) {handle : SubscriptionHandle}
    (received : .subscribed handle ∈ party.received) :
    ∃ source session sub, (source, .subscribed handle) ∈ party.arrived ∧
      (s.network.members source.pool)[source.member]? = some session ∧
      handle.unsub = ⟨session.connection.id⟩ ∧ sub ∈ s.network.entered source.pool ∧
      sub.tx = ⟨number⟩ ∧ sub.requestId = handle.requestId := by
  obtain ⟨⟨source, _⟩, entry, rfl⟩ := List.mem_map.mp received
  obtain ⟨session, _, _, _, present, parts, _, origin⟩ := arrived_origin conforms run found entry
  obtain ⟨sub, taken, tx, id, unsub⟩ := origin.of_subscribed
  have logged : .take sub ∈ session.log.map Emission.deed := by
    rw [parts]
    exact List.mem_append_left _ taken
  exact ⟨source, session, sub, entry, present, unsub,
    Network.taken_entered (.reached run) present logged, tx, id⟩

/-- A new subscriber uses nothing but the request id there is for it. -/
theorem Begins.apart {tx : Channel} {id : RequestId} {target : SubscriptionTarget} {phase : Phase}
    {dispatched : List Subscription} {own : RequestId → Prop}
    (begins : Begins lib transactionLib tx id target phase dispatched) (ours : own id) :
    (∀ received, phase.Holds received) ∧
    (∀ updater, phase = .registry updater → own updater.subscription.requestId) ∧
    ∀ sub ∈ dispatched, own sub.requestId := by
  cases begins with
  | registry table requestId subscriberId =>
    refine ⟨fun _ => trivial, ?_, ?_⟩
    · rintro _ ⟨⟩
      exact ours
    · intro sub member
      rw [List.mem_singleton.mp member]
      exact ours
  | account subscribed =>
    obtain ⟨handler, dispatched⟩ :=
      WebsocketServer.accountSubscribe_ok (Prod.ext subscribed rfl)
    refine ⟨?_, nofun, ?_⟩
    · intro received
      rw [Phase.Holds, handler]
      exact nofun
    · intro sub member
      rcases dispatched with ⟨_, only⟩ | ⟨_, _, _, _, both⟩
      · rw [only] at member
        rw [List.mem_singleton.mp member]
        exact ours
      · rw [both] at member
        rcases List.mem_cons.mp member with rfl | second
        · exact ours
        · rw [List.mem_singleton.mp second]
          exact ours
  | signature subscribed =>
    refine ⟨fun _ => trivial, nofun, ?_⟩
    intro sub member
    rw [List.mem_singleton.mp member]
    unfold WebsocketServer.signatureSubscribe at subscribed
    split at subscribed
    · cases subscribed
    · split at subscribed
      · cases subscribed
      · cases subscribed
        exact ours

namespace Apart

theorem initial (count : Nat) : Apart owner [] (new count) := by
  have none (number : Nat) (party : Party) : (new count).parties[number]? ≠ some party := by
    simp [new]
  exact {
    holds := fun number party found => absurd found (none number party)
    within := fun number party found => absurd found (none number party)
    queued := List.forall_mem_nil _
    entered := fun _ => List.forall_mem_nil _
    returned := fun _ => List.forall_mem_nil _ }

/-- A request id that was not drawn before is given to a subscriber. -/
theorem draw (apart : Apart owner drawn s) {id : RequestId} (unused : id ∉ drawn) (number : Nat) :
    Apart (Function.update owner id number) (drawn ++ [id]) s ∧
      Ours (Function.update owner id number) (drawn ++ [id]) number id := by
  have wider (other : Nat) (old : RequestId) (ours : Ours owner drawn other old) :
      Ours (Function.update owner id number) (drawn ++ [id]) other old := by
    obtain ⟨member, owned⟩ := ours
    have different : old ≠ id := by
      rintro rfl
      exact unused member
    exact ⟨List.mem_append_left _ member, (Function.update_of_ne different _ _).trans owned⟩
  refine ⟨⟨apart.holds, ?_, ?_, ?_, apart.returned⟩, by simp, Function.update_self ..⟩
  · intro other party found
    exact (apart.within other party found).mono (wider other)
  · intro sub member
    exact wider _ _ (apart.queued sub member)
  · intro pool sub member
    exact wider _ _ (apart.entered pool sub member)

/-- What a subscriber was confirmed under is its own. -/
theorem confirmed (apart : Apart owner drawn s) (conforms : Conforms s)
    {labels : List Network.Action} (run : Run (Fires Network.step) (.new count) labels s.network)
    {number : Nat} {party : Party} (found : s.parties[number]? = some party)
    (handle : SubscriptionHandle) (received : .subscribed handle ∈ party.received) :
    Ours owner drawn number handle.requestId := by
  obtain ⟨_, _, sub, _, _, _, entered, tx, id⟩ := confirmation_origin conforms run found received
  have ours := apart.entered _ sub entered
  rw [tx, id] at ours
  exact ours

/-- A subscriber changes that has received no less than before. -/
theorem replace {number : Nat} {party next : Party} (apart : Apart owner drawn s)
    (found : s.parties[number]? = some party) (holds : next.Holds)
    (within : next.Within (Ours owner drawn number)) (kept : party.received ⊆ next.received) :
    Apart owner drawn (s.replace number next) where
  holds := forall_replaced (P := fun _ party => party.Holds) holds fun other had _ =>
    apart.holds other had
  within := forall_replaced within fun other had _ => apart.within other had
  queued := apart.queued
  entered := apart.entered
  returned channel unsub member := by
    obtain ⟨other, had, present, handle, confirmed, facts⟩ := apart.returned channel unsub member
    by_cases same : other = number
    · subst same
      cases found.symm.trans present
      obtain ⟨inside, _⟩ := List.getElem?_eq_some_iff.mp found
      exact ⟨other, next, List.getElem?_set_self inside, handle, kept confirmed, facts⟩
    · exact ⟨other, had, (List.getElem?_set_ne (Ne.symm same)).trans present, handle, confirmed,
        facts⟩

theorem join {id : RequestId} {target : SubscriptionTarget} {phase : Phase}
    {dispatched : List Subscription} (apart : Apart owner drawn s)
    (begins : Begins lib transactionLib s.fresh id target phase dispatched)
    (ours : Ours owner drawn s.parties.length id) :
    Apart owner drawn (s.join target phase dispatched) := by
  obtain ⟨holds, updater, own⟩ := begins.apart ours
  refine ⟨forall_joined (P := fun _ party => party.Holds) ?_ apart.holds,
    forall_joined ?_ apart.within, apart.queued, apart.entered, ?_⟩
  · refine ⟨holds _, ?_⟩
    intro connection unsub member
    obtain ⟨_, _, same⟩ := List.mem_map.mp member
    cases same
  · refine ⟨updater, ?_⟩
    intro sub member
    obtain ⟨_, listed, same⟩ := List.mem_map.mp member
    cases same
    exact own sub listed
  · intro channel unsub member
    obtain ⟨number, party, found, returns⟩ := apart.returned channel unsub member
    exact ⟨number, party, joined_stays found, returns⟩

/-- A subscriber gets through with one of its sends. -/
theorem send {number : Nat} {party : Party} {first : HandlerEffect} {rest : List HandlerEffect}
    (apart : Apart owner drawn s) (conforms : Conforms s)
    (found : s.parties[number]? = some party) (waiting : party.outbox = first :: rest) :
    Apart owner drawn (s.effect number { party with outbox := rest } first) := by
  have holds := apart.holds _ _ found
  have within := apart.within _ _ found
  have replaced (forwarded : List Json) (reported : List RouterError) :
      Apart owner drawn (s.replace number { party with outbox := rest, forwarded, reported }) := by
    refine apart.replace found ⟨holds.phase, ?_⟩ ⟨within.phase, ?_⟩ (List.Subset.refl _)
    · intro connection unsub member
      exact holds.outbox connection unsub (waiting ▸ List.mem_cons_of_mem _ member)
    · intro sub member
      exact within.outbox sub (waiting ▸ List.mem_cons_of_mem _ member)
  cases first with
  | dispatch sub =>
    refine { replaced party.forwarded party.reported with queued := ?_ }
    intro other member
    rcases List.mem_append.mp member with earlier | now
    · exact apart.queued other earlier
    · rw [List.mem_singleton.mp now]
      have first : .dispatch sub ∈ party.outbox := waiting ▸ List.mem_cons_self
      rw [((conforms.dutiful _ _ found).own sub first).tx]
      exact within.outbox sub first
  | unsubscribe connection unsub =>
    refine { replaced party.forwarded party.reported with returned := ?_ }
    intro channel other member
    by_cases here : channel = connection
    · subst here
      simp only [effect, Function.update_self] at member
      rcases List.mem_append.mp member with earlier | now
      · exact (replaced party.forwarded party.reported).returned channel other earlier
      · rw [List.mem_singleton.mp now]
        obtain ⟨inside, _⟩ := List.getElem?_eq_some_iff.mp found
        exact ⟨number, { party with outbox := rest }, List.getElem?_set_self inside,
          holds.outbox channel unsub (waiting ▸ List.mem_cons_self)⟩
    · simp only [effect, Function.update_of_ne here] at member
      exact (replaced party.forwarded party.reported).returned channel other member
  | notify _ | report _ => exact replaced _ _

/-- A connection puts a message into the channel of a subscriber. -/
theorem deliver {number : Nat} {party : Party} (apart : Apart owner drawn s)
    (found : s.parties[number]? = some party) (source : Source) (message : PubsubMessage) :
    Apart owner drawn (s.replace number (party.accept source message)) := by
  have holds := apart.holds _ _ found
  have within := apart.within _ _ found
  have kept : party.received ⊆ party.received ++ [message] := List.subset_append_left _ _
  unfold Party.accept
  split
  · exact apart.replace found holds within (List.Subset.refl _)
  · have grown (inbox : List PubsubMessage) :
        Party.received { party with
          inbox, arrived := party.arrived ++ [(source, message)] } =
            party.received ++ [message] := List.map_append
    refine apart.replace found ⟨?_, ?_⟩ ⟨within.phase, within.outbox⟩ ?_
    · rw [grown]
      exact holds.phase.mono kept
    · intro connection unsub member
      rw [grown]
      exact (holds.outbox connection unsub member).mono kept
    · rw [grown]
      exact kept

/-- Nothing but fewer unsubscriptions are left once one is taken. -/
theorem unsubscribed {channel : UnsubChannel} {input : Input}
    {unsubs : UnsubChannel → List Unsubscription}
    (takes : s.unsubscribed channel input = some unsubs) (other : UnsubChannel) :
    unsubs other ⊆ s.unsubscriptions other := by
  cases input with
  | unsubscription unsub id =>
    simp only [Router.unsubscribed] at takes
    split at takes
    · cases takes
    · rename_i oldest rest queued
      split at takes
      · cases takes
        by_cases here : other = channel
        · subst here
          rw [Function.update_self, queued]
          exact List.subset_cons_self _ _
        · rw [Function.update_of_ne here]
          exact List.Subset.refl _
      · cases takes
  | received _ | request _ | ping =>
    cases takes
    exact List.Subset.refl _

/-- A step that draws no request id, or one that is the subscriber's own. -/
theorem step {labels : List Network.Action} (apart : Apart owner drawn s) (conforms : Conforms s)
    (run : Run (Fires Network.step) (.new count) labels s.network)
    (step : Step lib transactionLib s action t)
    (ours : ∀ ids, s.generated transactionLib action = some ids →
      Ours owner drawn (s.beneficiary action) ids.2) :
    Apart owner drawn t := by
  cases step with
  | join generated own begins => exact apart.join begins (own ▸ ours _ generated)
  | refuse => exact { apart with }
  | @party number party next _ found stepped =>
    have advances : Party.Advances ⟨number⟩ party next := Party.step_advances stepped
    refine apart.replace found ((apart.holds _ _ found).step (conforms.ordered _ _ found) stepped)
      ((apart.within _ _ found).step (apart.holds _ _ found) (apart.confirmed conforms run found)
        ?_ stepped) ?_
    · intro ids named
      exact ours ids (by rw [generated, found, Option.bind_some, named])
    rw [Party.received, Party.received, advances.history.1]
    exact List.Subset.refl _
  | send found waiting => exact apart.send conforms found waiting
  | network moved connects requests _ =>
    refine { apart with entered := ?_ }
    intro pool sub member
    rcases (Network.step_sound moved).entered pool with same | ⟨request, named, _⟩
    · exact apart.entered pool sub (same ▸ member)
    · exact absurd named (requests request)
  | dispatch queued moved =>
    have listed := apart.queued
    rw [queued] at listed
    refine { apart with
      entered := ?_
      queued := fun sub member => listed sub (List.mem_cons_of_mem _ member) }
    intro pool sub member
    rcases (Network.step_sound moved).entered pool with same | ⟨request, named, grown⟩
    · exact apart.entered pool sub (same ▸ member)
    · cases named
      rw [grown] at member
      rcases List.mem_append.mp member with earlier | now
      · exact apart.entered pool sub earlier
      · exact List.mem_singleton.mp now ▸ listed _ List.mem_cons_self
  | iterate idle found unsubscribes moved =>
    refine { apart with entered := ?_, returned := ?_ }
    · intro pool sub member
      rcases (Network.step_sound moved).entered pool with same | ⟨_, named, _⟩
      · exact apart.entered pool sub (same ▸ member)
      · cases named
    · intro channel unsub member
      exact apart.returned channel unsub (unsubscribed unsubscribes channel member)
  | lose carried absent => exact { apart with }
  | @deliver source _ message _ _ carried found =>
    exact { apart.deliver found source message with }

/-- As long as the counter of ids has not gone round, each request id has its subscriber
in every state reached. -/
theorem reached {actions : List Process.Action} {p : Process}
    (run : Run (Fires (Process.step lib transactionLib)) (.new count) actions p)
    (few : p.ids.issued ≤ 2 ^ 64) :
    ∃ owner drawn used, Apart owner drawn p.router ∧ p.Ledger used ∧
      ∀ id ∈ drawn, id.val ∈ used := by
  induction run with
  | nil => exact ⟨fun _ => 0, [], [], .initial count, .initial count, List.forall_mem_nil _⟩
  | @snoc actions p action q earlier last ih =>
    obtain ⟨owner, drawn, used, apart, ledger, listed⟩ := ih ((Process.step_issued last).trans few)
    cases action with
    | generate =>
      cases last
      exact ⟨owner, drawn, used, apart, ledger.generate few, listed⟩
    | act action =>
      obtain ⟨ran, reached⟩ := Process.router_run earlier
      obtain ⟨labels, moved⟩ := network_run reached
      obtain ⟨spent, fired, same⟩ := Process.step_act last
      obtain ⟨unused, next⟩ := ledger.spend spent q.router
      rw [← same] at next
      cases generated : p.router.generated transactionLib action with
      | none =>
        refine ⟨owner, drawn, _, apart.step (.reached reached) moved (step_sound fired) ?_, next, ?_⟩
        · intro ids named
          cases generated.symm.trans named
        · intro id member
          exact List.mem_append_left _ (listed id member)
      | some ids =>
        have mine : ids.2.val ∈ p.router.draws transactionLib action :=
          draws_generated generated
        have new : ids.2 ∉ drawn := fun before => unused _ mine (listed _ before)
        obtain ⟨wider, ours⟩ := apart.draw new (p.router.beneficiary action)
        refine ⟨_, _, _, wider.step (.reached reached) moved (step_sound fired) ?_, next, ?_⟩
        · intro other named
          cases generated.symm.trans named
          exact ours
        · intro id member
          rcases List.mem_append.mp member with before | now
          · exact List.mem_append_left _ (listed id before)
          · rw [List.mem_singleton.mp now]
            exact List.mem_append_right _ mine

end Apart

/-- An iteration that takes an unsubscription finds it in the channel of the connection. -/
theorem unsubscribed_mem {channel : UnsubChannel} {unsub : Unsubscription} {id : RequestId}
    {unsubs : UnsubChannel → List Unsubscription}
    (takes : s.unsubscribed channel (.unsubscription unsub id) = some unsubs) :
    unsub ∈ s.unsubscriptions channel := by
  simp only [Router.unsubscribed] at takes
  split at takes
  · cases takes
  · rename_i oldest rest queued
    split at takes
    · rename_i same
      rw [queued, same]
      exact List.mem_cons_self
    · cases takes

/-- The client of an account leaves. -/
def clientLeaves : List Action :=
  confirmedOnce ++ [.party 0 (.closed HandlerRun.undelegatedContext.routes), .send 0]

/-- Ids are drawn ahead, then the client leaves. -/
def drawnAhead : List Process.Action :=
  List.replicate 9 .generate ++ clientLeaves.map .act

/-- Its connection takes the unsubscription. -/
def cancelling : Event := calm (.unsubscription ⟨⟨1⟩, ⟨2⟩, "accountUnsubscribe"⟩ ⟨9⟩)

/-- The ids an upstream is told to cancel. -/
def cancelled (emission : Emission) : Option SubscriptionId :=
  match emission.deed with
  | .unsubscribe _ _ subid _ => some subid
  | _ => none

end Router

end MagicRouter
