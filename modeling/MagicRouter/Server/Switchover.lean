import MagicRouter.Cache.Delegations
import MagicRouter.Library.Run
import MagicRouter.Server.Websocket

/-! How an account subscription learns of a delegation. The base chain notifies the
handler of the account's new owner and the sync stream brings the delegation record
to the cache; the handler decides by what the cache holds when it is notified. -/

namespace MagicRouter

open Library Delegations

/-- A handler, the caches it reads and the subscriptions it has dispatched. -/
structure Switchover where
  cache : Delegations.State
  routes : RoutingTable
  handler : AccountSubscriptionHandler
  dispatched : List Subscription

inductive SwitchEvent where
  /-- the updater of the delegation cache takes a message of the sync stream -/
  | update (message : AccountUpdate)
  /-- the handler takes a notification; `call` is the `get_record` call it makes -/
  | notification (id : RequestId) (upstream : PubSubUpstreamKind) (payload : Json) (call : CallId)
      (context : HandlerContext)

namespace Switchover

variable {derive : Pubkey → Pubkey} {s t : Switchover}

/-- The answer of a `get_record` call that finds its record in the cache. -/
def answer (cache : Delegations.State) (call : CallId) : Option (Option ParsedDelegationRecord) :=
  match cache.calls call with
  | some { pc := .returned record, .. } => some record
  | _ => none

/-- Process one event. `derive` is the derivation of record addresses. A notification
is processed here only if the record of the account is cached, so that `get_record`
answers at once. -/
def process (derive : Pubkey → Pubkey) (s : Switchover) : SwitchEvent → Option Switchover
  | .update message => do
    let cache ← Delegations.step s.cache (.update message)
    return { s with cache }
  | .notification id upstream payload call context => do
    let cache ← exec Delegations.step s.cache [.start call (derive s.handler.pubkey), .read call]
    let record ← answer cache call
    let authority := record.map (·.authority)
    let outcome := s.handler.receive { context with authority, routes := s.routes }
      (.notification id upstream payload)
    return {
      cache
      routes := outcome.routes
      handler := outcome.handler
      dispatched := s.dispatched ++ outcome.effects.filterMap HandlerEffect.dispatched }

/-- Between two states, a subscription to `url` was dispatched. -/
def Dispatches (s t : Switchover) (url : Url) : Prop :=
  ∃ added, t.dispatched = s.dispatched ++ added ∧ ∃ sub ∈ added, sub.destination = url

theorem not_dispatches_of_same {url : Url} (same : t.dispatched = s.dispatched) :
    ¬Dispatches s t url := by
  rintro ⟨added, appended, sub, member, _⟩
  rw [same] at appended
  simp [List.self_eq_append_right.mp appended] at member

/-- An account that is cached as undelegated becomes delegated to a node of the
routing table: the data of the two events this causes. -/
structure Delegation (derive : Pubkey → Pubkey) (s : Switchover) where
  entry : DelegationEntry
  cached : s.cache.db (derive s.handler.pubkey) = some entry
  initialized : entry.slot ≠ 0
  undelegated : entry.record = none
  idle : s.cache.updater = .idle
  data : List UInt8
  slot : Nat
  newer : entry.slot < slot
  record : ParsedDelegationRecord
  parsed : ParsedDelegationRecord.fromBytes data = some record
  node : RemoteHandle
  known : s.routes.ephemeralHandle record.authority = some node
  id : RequestId
  payload : Json
  owned : AccountSubscriptionHandler.ownerOf payload = some DELEGATION_PROGRAM_STR
  call : CallId
  unused : s.cache.calls call = none
  context : HandlerContext

namespace Delegation

/-- The stream update that installs the record. -/
def update (delegation : Delegation derive s) : SwitchEvent :=
  .update (.delegated (derive s.handler.pubkey) delegation.data delegation.slot)

/-- The base chain's notification of the new owner. -/
def notification (delegation : Delegation derive s) : SwitchEvent :=
  .notification delegation.id .chain delegation.payload delegation.call delegation.context

end Delegation

/-- `get_record` returns the record of an initialized entry and changes nothing else. -/
theorem answer_of_cached {cache : Delegations.State} {call : CallId} {pda : Pubkey}
    {entry : DelegationEntry} (unused : cache.calls call = none)
    (cached : cache.db pda = some entry) (initialized : entry.slot ≠ 0) :
    ∃ after, exec Delegations.step cache [.start call pda, .read call] = some after ∧
      answer after call = some entry.record ∧ after.db = cache.db ∧ after.updater = cache.updater := by
  refine ⟨(cache.goto call pda .lookup).goto call pda (.returned entry.record), ?_, ?_, rfl, rfl⟩
  · simp [exec, Delegations.step, unused, State.goto, State.read, cached, initialized]
  · simp [answer, State.goto]

/-- A newer stream update of a cached entry replaces its record. -/
theorem update_of_newer {cache : Delegations.State} {pda : Pubkey} {entry : DelegationEntry}
    (data : List UInt8) {slot : Nat} (idle : cache.updater = .idle)
    (cached : cache.db pda = some entry) (newer : entry.slot < slot) :
    ∃ after, Delegations.step cache (.update (.delegated pda data slot)) = some after ∧
      after.calls = cache.calls ∧
      ∃ current, after.db pda = some current ∧ current.slot = slot ∧
        current.record = ParsedDelegationRecord.fromBytes data := by
  refine ⟨cache.handleUpdate (.delegated pda data slot), by simp only [Delegations.step, idle], ?_, ?_⟩
  · simp [State.handleUpdate, State.updateCachedEntry, cached, Nat.not_le.mpr newer, State.setEntry]
  · simp [State.handleUpdate, State.updateCachedEntry, cached, Nat.not_le.mpr newer, State.setEntry]

section Receive

variable (context : HandlerContext) (handler : AccountSubscriptionHandler) {payload : Json}

theorem receive_dispatched (id : RequestId) (upstream : PubSubUpstreamKind) (payload : Json) :
    (handler.receive context (.notification id upstream payload)).effects.filterMap
        HandlerEffect.dispatched =
      (handler.handleDelegationStatusChange context payload id upstream).2.filterMap
        HandlerEffect.dispatched := by
  simp only [AccountSubscriptionHandler.receive]
  split
  · rfl
  · split
    · simp [HandlerEffect.dispatched]
    · rfl

/-- Told of the new owner before the record is cached, the handler stays where it is. -/
theorem dispatched_of_undelegated (id : RequestId)
    (owned : AccountSubscriptionHandler.ownerOf payload = some DELEGATION_PROGRAM_STR)
    (undelegated : context.authority = none) :
    (handler.receive context (.notification id .chain payload)).effects.filterMap
      HandlerEffect.dispatched = [] := by
  simp [receive_dispatched, AccountSubscriptionHandler.handleDelegationStatusChange, owned, undelegated]

/-- Told of it afterwards, the handler subscribes to the node. -/
theorem dispatched_of_delegated {identity : Pubkey} {node : RemoteHandle} (id : RequestId)
    (owned : AccountSubscriptionHandler.ownerOf payload = some DELEGATION_PROGRAM_STR)
    (delegated : context.authority = some identity)
    (known : context.routes.ephemeralHandle identity = some node) :
    ∃ sub, (handler.receive context (.notification id .chain payload)).effects.filterMap
      HandlerEffect.dispatched = [sub] ∧ sub.destination = node.ws := by
  refine ⟨handler.ephemSubscription context node, ?_, rfl⟩
  simp [receive_dispatched, AccountSubscriptionHandler.handleDelegationStatusChange, owned, delegated,
    known, HandlerEffect.dispatched]

end Receive

/-- A notification processed while the record of the account is cached. -/
theorem process_notification {entry : DelegationEntry} {call : CallId} (id : RequestId)
    (upstream : PubSubUpstreamKind) (payload : Json) (context : HandlerContext)
    (unused : s.cache.calls call = none)
    (cached : s.cache.db (derive s.handler.pubkey) = some entry) (initialized : entry.slot ≠ 0) :
    ∃ t, process derive s (.notification id upstream payload call context) = some t ∧
      t.cache.db = s.cache.db ∧ t.cache.updater = s.cache.updater ∧
      t.handler.pubkey = s.handler.pubkey ∧
      t.dispatched = s.dispatched ++ (s.handler.receive
        { context with authority := entry.record.map (·.authority), routes := s.routes }
        (.notification id upstream payload)).effects.filterMap HandlerEffect.dispatched := by
  obtain ⟨after, executed, answered, entries, updater⟩ := answer_of_cached unused cached initialized
  refine ⟨_, by simp [process, executed, answered]; rfl, entries, updater, ?_, rfl⟩
  exact AccountSubscriptionHandler.receive_pubkey ..

/-- A newer stream update processed while the record of the account is cached. -/
theorem process_update {entry : DelegationEntry} (data : List UInt8) {slot : Nat}
    (idle : s.cache.updater = .idle)
    (cached : s.cache.db (derive s.handler.pubkey) = some entry) (newer : entry.slot < slot) :
    ∃ cache, process derive s (.update (.delegated (derive s.handler.pubkey) data slot)) =
        some { s with cache } ∧
      cache.calls = s.cache.calls ∧
      ∃ current, cache.db (derive s.handler.pubkey) = some current ∧ current.slot = slot ∧
        current.record = ParsedDelegationRecord.fromBytes data := by
  obtain ⟨after, updated, calls, current⟩ := update_of_newer data idle cached newer
  exact ⟨after, by simp [process, updated], calls, current⟩

/-- Stream first: the notification finds the record and moves the subscription. -/
theorem dispatches_of_update_first (delegation : Delegation derive s) :
    ∃ t, exec (process derive) s [delegation.update, delegation.notification] = some t ∧
      Dispatches s t delegation.node.ws := by
  obtain ⟨cache, updated, calls, current, installed, slot, record⟩ :=
    process_update delegation.data delegation.idle delegation.cached delegation.newer
  have initialized : current.slot ≠ 0 := by
    have newer := delegation.newer
    omega
  obtain ⟨t, processed, _, _, _, dispatched⟩ :=
    process_notification (s := { s with cache }) delegation.id .chain delegation.payload
      delegation.context (by rw [calls]; exact delegation.unused) installed initialized
  obtain ⟨sub, sent, destination⟩ := dispatched_of_delegated
    { delegation.context with authority := current.record.map (·.authority), routes := s.routes }
    s.handler delegation.id delegation.owned (by rw [record, delegation.parsed]; rfl) delegation.known
  refine ⟨t, ?_, [sub], by rw [dispatched, sent], sub, by simp, destination⟩
  simp [exec, Delegation.update, Delegation.notification, updated, processed]

/-- Notification first: the handler still finds the account undelegated, and the
update that follows does not reach it. -/
theorem no_dispatch_of_notification_first (delegation : Delegation derive s) :
    ∃ t, exec (process derive) s [delegation.notification, delegation.update] = some t ∧
      t.dispatched = s.dispatched := by
  obtain ⟨t, processed, entries, updater, pubkey, dispatched⟩ :=
    process_notification delegation.id .chain delegation.payload
      delegation.context delegation.unused delegation.cached delegation.initialized
  rw [dispatched_of_undelegated _ _ delegation.id delegation.owned (by simp [delegation.undelegated]),
    List.append_nil] at dispatched
  have cached : t.cache.db (derive t.handler.pubkey) = some delegation.entry := by
    rw [entries, pubkey]
    exact delegation.cached
  obtain ⟨cache, updated, _⟩ := process_update delegation.data (updater.trans delegation.idle) cached
    delegation.newer
  refine ⟨{ t with cache }, ?_, dispatched⟩
  rw [pubkey] at updated
  simp [exec, Delegation.update, Delegation.notification, updated, processed]

/-- After both events the handler has subscribed to the node exactly when the stream
update was processed before the notification. -/
theorem switchover_iff_update_first (derive : Pubkey → Pubkey) (s : Switchover)
    (delegation : Delegation derive s) (events : List SwitchEvent)
    (order : events = [delegation.update, delegation.notification] ∨
      events = [delegation.notification, delegation.update]) :
    ∃ t, exec (process derive) s events = some t ∧
      (Dispatches s t delegation.node.ws ↔
        events = [delegation.update, delegation.notification]) := by
  rcases order with rfl | rfl
  · obtain ⟨t, executed, dispatches⟩ := dispatches_of_update_first delegation
    exact ⟨t, executed, iff_of_true dispatches rfl⟩
  · obtain ⟨t, executed, dispatched⟩ := no_dispatch_of_notification_first delegation
    exact ⟨t, executed, iff_of_false (not_dispatches_of_same dispatched)
      (by simp [Delegation.update, Delegation.notification])⟩

section Sample

/-- The account the sample is about, and the address of its delegation record. -/
def sampleAccount : Pubkey := .repeating 1

def sampleRecordAddress : Pubkey where
  bytes := [128, 113, 135, 162, 245, 58, 239, 61, 165, 230, 178, 137, 232, 234, 249, 59,
    240, 84, 80, 188, 49, 32, 202, 0, 44, 14, 162, 41, 230, 52, 131, 75]
  length_eq := by decide

def sampleDerive (pubkey : Pubkey) : Pubkey :=
  if pubkey = sampleAccount then sampleRecordAddress else .default

/-- A handler whose account is cached as undelegated since slot 10. -/
def sampleSwitchover : Switchover where
  cache := State.init.setEntry sampleRecordAddress (some {
    slot := 10, record := none, pendingMinContextSlot := none, pendingFill := none })
  routes := .sample
  handler := {
    pubkey := sampleAccount
    subscriberId := ⟨1⟩
    pubsubTx := ⟨1⟩
    handles := (∅ : Store RequestId SubscriptionHandle).insert ⟨2⟩
      { requestId := ⟨2⟩, unsub := ⟨0⟩, upstream := .chain }
    params := none }
  dispatched := []

/-- The account is delegated to the node of identity 9 in slot 11. -/
def sampleDelegation : Delegation sampleDerive sampleSwitchover where
  entry := { slot := 10, record := none, pendingMinContextSlot := none, pendingFill := none }
  cached := by simp [sampleSwitchover, sampleDerive, State.setEntry]
  initialized := by decide
  undelegated := rfl
  idle := rfl
  data := [100, 0, 0, 0, 0, 0, 0, 0] ++ List.replicate 32 9 ++ List.replicate 32 4 ++
    [11, 0, 0, 0, 0, 0, 0, 0] ++ List.replicate 8 0
  slot := 11
  newer := by decide
  record := { authority := .repeating 9, owner := .repeating 4, delegationSlot := 11, lamports := 0 }
  parsed := by decide +kernel
  node := { rpc := RoutingTable.sampleNode.client, ws := RoutingTable.sampleNode.wsUrl }
  known := by
    rw [RoutingTable.ephemeralHandle, show sampleSwitchover.routes = .sample from rfl,
      RoutingTable.sample_node]
    rfl
  id := ⟨2⟩
  payload := .obj [("value", .obj [("owner", .str DELEGATION_PROGRAM_STR)])]
  owned := rfl
  call := 0
  unused := rfl
  context := {
    authority := none, routes := .sample, subscriberId := ⟨3⟩, requestId := ⟨4⟩,
    serialized := true, delivered := true }

/-- With the stream update first the handler subscribes to the node. -/
theorem sample_switches_over :
    ∃ t, exec (process sampleDerive) sampleSwitchover
        [sampleDelegation.update, sampleDelegation.notification] = some t ∧
      Dispatches sampleSwitchover t RoutingTable.sampleNode.wsUrl := by
  obtain ⟨t, executed, dispatches⟩ := switchover_iff_update_first sampleDerive sampleSwitchover
    sampleDelegation _ (.inl rfl)
  exact ⟨t, executed, dispatches.mpr rfl⟩

/-- With the notification first it never does. -/
theorem sample_stays_behind :
    ∃ t, exec (process sampleDerive) sampleSwitchover
        [sampleDelegation.notification, sampleDelegation.update] = some t ∧
      ¬Dispatches sampleSwitchover t RoutingTable.sampleNode.wsUrl := by
  obtain ⟨t, executed, dispatched⟩ := no_dispatch_of_notification_first sampleDelegation
  exact ⟨t, executed, not_dispatches_of_same dispatched⟩

end Sample

end Switchover

end MagicRouter
