import Mathlib.Data.Finset.Basic
import MagicRouter.Types

/-! The delegation cache (`cache/delegations.rs`) as a transition system: any
number of concurrent `get_record` calls, the stream updater and the syncer, one
step per access to shared state. A call is where its program counter says; it
can be cancelled between any two of its steps. -/

namespace MagicRouter.Delegations

/-- Identity of a `PendingDelegationFill`, as compared by `ptr_eq`. -/
abbrev FillId := Nat

/-- Identity of one `get_record` call. -/
abbrev CallId := Nat

def MAX_ACCOUNT_REFETCH_ATTEMPTS : Nat := 3

def MIN_CONTEXT_SLOT_ROLLBACK : Nat := 8

/-- `subscription_slot.checked_sub(MIN_CONTEXT_SLOT_ROLLBACK)` -/
def minContextSlot (subscriptionSlot : Nat) : Option Nat :=
  if MIN_CONTEXT_SLOT_ROLLBACK ≤ subscriptionSlot then
    some (subscriptionSlot - MIN_CONTEXT_SLOT_ROLLBACK)
  else none

structure DelegationEntry where
  slot : Nat
  record : Option ParsedDelegationRecord
  pendingMinContextSlot : Option Nat
  pendingFill : Option FillId
  deriving DecidableEq

/-- Outcome of one RPC attempt; `data` is the account data after decoding. -/
inductive RpcResponse where
  | account (slot : Nat) (data : Option (List UInt8))
  | missing (slot : Nat)
  | error

/-- How the RPC provider answers each attempt of one fetch, given the account
asked for and the minimal context slot. -/
abbrev Rpc := Pubkey → Option Nat → Nat → RpcResponse

/-- The retry loop of `fetch`, from attempt number `attempt` on. -/
def fetchFrom (answer : Nat → RpcResponse) : (left attempt : Nat) → DelegationEntry
  | 0, _ => { slot := 0, record := none, pendingMinContextSlot := none, pendingFill := none }
  | left + 1, attempt =>
    match answer attempt with
    | .account slot data =>
      { slot
        record := data.bind ParsedDelegationRecord.fromBytes
        pendingMinContextSlot := none
        pendingFill := none }
    | .missing slot => { slot, record := none, pendingMinContextSlot := none, pendingFill := none }
    | .error => fetchFrom answer left (attempt + 1)

def fetch (rpc : Rpc) (pda : Pubkey) (minContextSlot : Option Nat) : DelegationEntry :=
  fetchFrom (rpc pda minContextSlot) (MAX_ACCOUNT_REFETCH_ATTEMPTS + 1) 0

/-- `merge_fetched` on one entry: the entry afterwards and the record returned. -/
def mergeFetched (entry : Option DelegationEntry) (fetched : DelegationEntry)
    (fill : Option FillId) : Option DelegationEntry × Option ParsedDelegationRecord :=
  match entry with
  | none => (none, fetched.record)
  | some current =>
    if current.pendingFill.any (fun pending => some pending ≠ fill) then
      (some current, fetched.record)
    else if current.slot < fetched.slot then (some fetched, fetched.record)
    else (some current, current.record)

/-- Whether the entry is the placeholder of the given fill. -/
def Awaits (fill : FillId) (entry : DelegationEntry) : Prop :=
  entry.slot = 0 ∧ entry.pendingFill = some fill

instance (fill : FillId) (entry : DelegationEntry) : Decidable (Awaits fill entry) :=
  inferInstanceAs (Decidable (_ ∧ _))

/-- Progress of `stream_fill`: between iterations, or past the creation of the
`Notified` future, which `notify_waiters` marks as woken. -/
inductive StreamFill where
  | idle
  | armed (woken : Bool)
  | parked (woken : Bool)
  deriving DecidableEq

/-- Where a `get_record` call is, named by the next thing it does. -/
inductive Pc where
  /-- read the entry at the head of the loop -/
  | lookup
  /-- wait for the result of another call's fill -/
  | waiting (fill : FillId)
  /-- remove the placeholder of a cancelled fill -/
  | discarding (fill : FillId)
  /-- fetch for an entry that no fill is pending on -/
  | refetching (minContextSlot : Option Nat)
  | remerging (fetched : DelegationEntry)
  /-- put the placeholder of an own fill into a vacant entry -/
  | inserting (fill : FillId)
  /-- ask the syncer to drop the entry evicted by the insertion -/
  | evicting (fill : FillId) (evicted : Pubkey)
  | subscribing (fill : FillId)
  | awaiting (fill : FillId)
  /-- remove the own placeholder after the subscription failed -/
  | dropping (fill : FillId)
  | fetchingAlone (fill : FillId)
  /-- check that the placeholder is still there and store the context slot -/
  | claiming (fill : FillId) (minContextSlot : Option Nat)
  /-- race the fetch against the stream -/
  | filling (fill : FillId) (minContextSlot : Option Nat) (stream : StreamFill)
  | merging (fill : FillId) (fetched : DelegationEntry)
  /-- clear the pending fill of the entry -/
  | releasing (fill : FillId) (record : Option ParsedDelegationRecord)
  /-- send the result to the waiting calls -/
  | resolving (fill : FillId) (record : Option ParsedDelegationRecord)
  | returned (record : Option ParsedDelegationRecord)
  | cancelled
  deriving DecidableEq

/-- The fill whose sender the call holds. -/
def Pc.owned : Pc → Option FillId
  | .inserting fill | .evicting fill _ | .subscribing fill | .awaiting fill | .dropping fill
  | .fetchingAlone fill | .claiming fill _ | .filling fill _ _ | .merging fill _
  | .releasing fill _ | .resolving fill _ => some fill
  | _ => none

/-- Whether the call has ended. -/
def Pc.ended : Pc → Bool
  | .returned _ | .cancelled => true
  | _ => false

structure Call where
  pda : Pubkey
  pc : Pc
  deriving DecidableEq

/-- Wake a `Notified` future of the given fill. -/
def Call.wake (fill : FillId) (call : Call) : Call :=
  match call.pc with
  | .filling own slot (.armed _) =>
    if own = fill then { call with pc := .filling own slot (.armed true) } else call
  | .filling own slot (.parked _) =>
    if own = fill then { call with pc := .filling own slot (.parked true) } else call
  | _ => call

/-- The oneshot channel of a fill: its sender is held by the owner call, was
used, or was dropped. -/
inductive FillStatus where
  | held (owner : CallId)
  | resolved (owner : CallId) (record : Option ParsedDelegationRecord)
  | dropped
  deriving DecidableEq

inductive SyncRequest where
  | subscribe (pda : Pubkey) (caller : CallId)
  | unsubscribe (pda : Pubkey)
  deriving DecidableEq

/-- The updater between messages, about to notify a fill it took out of its
entry, or clearing the cache bucket by bucket. -/
inductive Updater where
  | idle
  | notifying (fill : FillId)
  | clearing
  deriving DecidableEq

inductive Transition where
  | delegated
  | undelegated
  | redelegated
  deriving DecidableEq

/-- A message of the sync stream. -/
inductive AccountUpdate where
  | delegated (record : Pubkey) (data : List UInt8) (slot : Nat)
  | undelegated (record : Pubkey) (slot : Nat)
  | syncInterrupted
  | syncTerminated

structure State where
  db : Pubkey → Option DelegationEntry
  calls : CallId → Option Call
  fills : FillId → Option FillStatus
  nextFill : FillId
  subscribed : Finset Pubkey
  requests : List SyncRequest
  updater : Updater
  transitions : List (Pubkey × Transition)

def State.init : State where
  db _ := none
  calls _ := none
  fills _ := none
  nextFill := 0
  subscribed := ∅
  requests := []
  updater := .idle
  transitions := []

namespace State

def goto (s : State) (call : CallId) (pda : Pubkey) (pc : Pc) : State :=
  { s with calls := Function.update s.calls call (some { pda, pc }) }

def setEntry (s : State) (pda : Pubkey) (entry : Option DelegationEntry) : State :=
  { s with db := Function.update s.db pda entry }

def setFill (s : State) (fill : FillId) (status : FillStatus) : State :=
  { s with fills := Function.update s.fills fill (some status) }

def enqueue (s : State) (request : SyncRequest) : State :=
  { s with requests := s.requests ++ [request] }

/-- The metric counts authority changes of initialized entries. -/
def countTransition (s : State) (pda : Pubkey) (entry : DelegationEntry)
    (newRecord : Option ParsedDelegationRecord) : List (Pubkey × Transition) :=
  let old := entry.record.map (·.authority)
  let new := newRecord.map (·.authority)
  if old ≠ new ∧ entry.slot ≠ 0 then
    let transition := match old, new with
      | none, _ => Transition.delegated
      | _, none => .undelegated
      | _, _ => .redelegated
    s.transitions ++ [(pda, transition)]
  else s.transitions

def updateCachedEntry (s : State) (pda : Pubkey) (slot : Nat)
    (newRecord : Option ParsedDelegationRecord) : State :=
  match s.db pda with
  | none => s
  | some entry =>
    if entry.slot ≥ slot then s
    else
      { s.setEntry pda (some {
          slot, record := newRecord, pendingMinContextSlot := none, pendingFill := none }) with
        transitions := s.countTransition pda entry newRecord
        updater := match entry.pendingFill with
          | none => .idle
          | some fill => .notifying fill }

end State

/-- One scheduling choice, with what the environment contributes to it. -/
inductive Action where
  | start (call : CallId) (pda : Pubkey)
  | read (call : CallId)
  | join (call : CallId)
  | discard (call : CallId)
  | fetched (call : CallId) (rpc : Rpc)
  | merge (call : CallId)
  | insert (call : CallId) (evicted : Option Pubkey)
  | unsubscribe (call : CallId)
  | subscribe (call : CallId)
  | claim (call : CallId)
  | arm (call : CallId)
  | peek (call : CallId)
  | wake (call : CallId)
  | release (call : CallId)
  | resolve (call : CallId)
  | drop (call : CallId)
  | cancel (call : CallId)
  /-- the syncer handles its oldest request; a subscription is answered with `slot` -/
  | serve (slot : Nat)
  /-- the syncer has terminated, so the subscription request is answered with `None` -/
  | refuse (call : CallId)
  | update (message : AccountUpdate)
  | notify
  | sweep (pda : Pubkey)
  | swept

namespace State

/-- The head of the loop in `get_record`. -/
def read (s : State) (call : CallId) (pda : Pubkey) : State :=
  match s.db pda with
  | some entry =>
    if entry.slot ≠ 0 then s.goto call pda (.returned entry.record)
    else
      match entry.pendingFill with
      | some fill => s.goto call pda (.waiting fill)
      | none => s.goto call pda (.refetching entry.pendingMinContextSlot)
  | none =>
    -- a cache miss: `PendingDelegationFill::new`, whose sender this call holds
    { (s.setFill s.nextFill (.held call)).goto call pda (.inserting s.nextFill) with
      nextFill := s.nextFill + 1 }

/-- Drop the sender of the own fill and go round the loop. -/
def retry (s : State) (call : CallId) (pda : Pubkey) (fill : FillId) : State :=
  (s.setFill fill .dropped).goto call pda .lookup

def placeholder (fill : FillId) : DelegationEntry where
  slot := 0
  record := none
  pendingMinContextSlot := none
  pendingFill := some fill

/-- Insertion of the placeholder and `insert_new` up to the eviction. -/
def insert (s : State) (call : CallId) (pda : Pubkey) (fill : FillId) (evicted : Option Pubkey) :
    Option State :=
  match s.db pda, evicted with
  | some _, _ => some (s.retry call pda fill)
  | none, none => some ((s.setEntry pda (some (placeholder fill))).goto call pda (.subscribing fill))
  | none, some victim =>
    if victim ≠ pda ∧ (s.db victim).isSome then
      some (((s.setEntry victim none).setEntry pda (some (placeholder fill))).goto call pda
        (.evicting fill victim))
    else none

/-- Remove the placeholder of `fill`; the flag tells whether it was there. -/
def removePendingFill (s : State) (pda : Pubkey) (fill : FillId) : State × Bool :=
  match s.db pda with
  | some entry => if Awaits fill entry then (s.setEntry pda none, true) else (s, false)
  | none => (s, false)

def claim (s : State) (call : CallId) (pda : Pubkey) (fill : FillId) (minContextSlot : Option Nat) :
    State :=
  match s.db pda with
  | some entry =>
    if Awaits fill entry then
      (s.setEntry pda (some { entry with pendingMinContextSlot := minContextSlot })).goto call pda
        (.filling fill minContextSlot .idle)
    else s.retry call pda fill
  | none => s.retry call pda fill

/-- One read of `stream_fill`. -/
def peek (s : State) (call : CallId) (pda : Pubkey) (fill : FillId) (minContextSlot : Option Nat)
    (woken : Bool) : State :=
  match s.db pda with
  | some entry =>
    if entry.slot ≠ 0 then s.goto call pda (.releasing fill entry.record)
    else s.goto call pda (.filling fill minContextSlot (.parked woken))
  | none => s.goto call pda (.filling fill minContextSlot (.parked woken))

def release (s : State) (call : CallId) (pda : Pubkey) (fill : FillId)
    (record : Option ParsedDelegationRecord) : State :=
  match s.db pda with
  | some entry =>
    if entry.pendingFill = some fill then
      (s.setEntry pda (some { entry with pendingFill := none })).goto call pda
        (.resolving fill record)
    else s.goto call pda (.resolving fill record)
  | none => s.goto call pda (.resolving fill record)

/-- The syncer handles its oldest request. -/
def serve (s : State) (slot : Nat) : Option State :=
  match s.requests with
  | [] => none
  | .unsubscribe pda :: rest =>
    some { s with subscribed := s.subscribed.erase pda, requests := rest }
  | .subscribe pda caller :: rest =>
    let served := { s with subscribed := Insert.insert pda s.subscribed, requests := rest }
    match s.calls caller with
    | some { pda := own, pc := .awaiting fill } =>
      some (served.goto caller own (.claiming fill (minContextSlot slot)))
    | _ => some served

/-- One message handled by `updater`, up to a notification or the sweep it starts. -/
def handleUpdate (s : State) : AccountUpdate → State
  | .delegated pda data slot => s.updateCachedEntry pda slot (ParsedDelegationRecord.fromBytes data)
  | .undelegated pda slot => s.updateCachedEntry pda slot none
  | .syncInterrupted => { s with updater := .clearing }
  | .syncTerminated => s

end State

/-- The step an action takes, if the call or task it belongs to is at that point. -/
def step (s : State) : Action → Option State
  | .start call pda =>
    match s.calls call with
    | none => some (s.goto call pda .lookup)
    | some _ => none
  | .read call =>
    match s.calls call with
    | some { pda, pc := .lookup } => some (s.read call pda)
    | _ => none
  | .join call =>
    match s.calls call with
    | some { pda, pc := .waiting fill } =>
      match s.fills fill with
      | some (.resolved _ record) => some (s.goto call pda (.returned record))
      | some .dropped => some (s.goto call pda (.discarding fill))
      | _ => none
    | _ => none
  | .discard call =>
    match s.calls call with
    | some { pda, pc := .discarding fill } =>
      some ((s.removePendingFill pda fill).1.goto call pda .lookup)
    | _ => none
  | .fetched call rpc =>
    match s.calls call with
    | some { pda, pc := .refetching slot } =>
      some (s.goto call pda (.remerging (fetch rpc pda slot)))
    | some { pda, pc := .filling fill slot _ } =>
      some (s.goto call pda (.merging fill (fetch rpc pda slot)))
    | some { pda, pc := .fetchingAlone fill } =>
      some (s.goto call pda (.resolving fill (fetch rpc pda none).record))
    | _ => none
  | .merge call =>
    match s.calls call with
    | some { pda, pc := .remerging fetched } =>
      let merged := mergeFetched (s.db pda) fetched none
      some ((s.setEntry pda merged.1).goto call pda (.returned merged.2))
    | some { pda, pc := .merging fill fetched } =>
      let merged := mergeFetched (s.db pda) fetched (some fill)
      some ((s.setEntry pda merged.1).goto call pda (.releasing fill merged.2))
    | _ => none
  | .insert call evicted =>
    match s.calls call with
    | some { pda, pc := .inserting fill } => s.insert call pda fill evicted
    | _ => none
  | .unsubscribe call =>
    match s.calls call with
    | some { pda, pc := .evicting fill evicted } =>
      some ((s.enqueue (.unsubscribe evicted)).goto call pda (.subscribing fill))
    | _ => none
  | .subscribe call =>
    match s.calls call with
    | some { pda, pc := .subscribing fill } =>
      some ((s.enqueue (.subscribe pda call)).goto call pda (.awaiting fill))
    | _ => none
  | .claim call =>
    match s.calls call with
    | some { pda, pc := .claiming fill slot } => some (s.claim call pda fill slot)
    | _ => none
  | .arm call =>
    match s.calls call with
    | some { pda, pc := .filling fill slot .idle } =>
      some (s.goto call pda (.filling fill slot (.armed false)))
    | _ => none
  | .peek call =>
    match s.calls call with
    | some { pda, pc := .filling fill slot (.armed woken) } =>
      some (s.peek call pda fill slot woken)
    | _ => none
  | .wake call =>
    match s.calls call with
    | some { pda, pc := .filling fill slot (.parked true) } =>
      some (s.goto call pda (.filling fill slot .idle))
    | _ => none
  | .release call =>
    match s.calls call with
    | some { pda, pc := .releasing fill record } => some (s.release call pda fill record)
    | _ => none
  | .resolve call =>
    match s.calls call with
    | some { pda, pc := .resolving fill record } =>
      some ((s.setFill fill (.resolved call record)).goto call pda (.returned record))
    | _ => none
  | .drop call =>
    match s.calls call with
    | some { pda, pc := .dropping fill } =>
      let removed := s.removePendingFill pda fill
      if removed.2 then some (removed.1.goto call pda (.fetchingAlone fill))
      else some (removed.1.retry call pda fill)
    | _ => none
  | .cancel call =>
    match s.calls call with
    | some { pda, pc } =>
      if pc.ended then none
      else
        match pc.owned with
        | some fill => some ((s.setFill fill .dropped).goto call pda .cancelled)
        | none => some (s.goto call pda .cancelled)
    | none => none
  | .serve slot => s.serve slot
  | .refuse call =>
    match s.calls call with
    | some { pda, pc := .awaiting fill } =>
      some ({ s with requests := s.requests.filter (· ≠ SyncRequest.subscribe pda call) }.goto call pda
        (.dropping fill))
    | _ => none
  | .update message =>
    match s.updater with
    | .idle => some (s.handleUpdate message)
    | _ => none
  | .notify =>
    match s.updater with
    | .notifying fill =>
      some { s with calls := fun call => (s.calls call).map (Call.wake fill), updater := .idle }
    | _ => none
  | .sweep pda =>
    match s.updater with
    | .clearing => some (s.setEntry pda none)
    | _ => none
  | .swept =>
    match s.updater with
    | .clearing => some { s with updater := .idle }
    | _ => none

/-- The steps of a call that misses, fills its entry by a fetch and returns. -/
def fillByFetch (call : CallId) (pda : Pubkey) (slot : Nat) (rpc : Rpc) : List Action :=
  [.start call pda, .read call, .insert call none, .subscribe call, .serve slot, .claim call,
    .fetched call rpc, .merge call, .release call, .resolve call]

end MagicRouter.Delegations
