import MagicRouter.Cache.Delegations

/-! What one step of the delegation cache can do, said once: `Step` lists every
transition with its guard and its full effect, and `step_sound` says that the
executable `step` takes no other. -/

namespace MagicRouter.Delegations

namespace State

variable (s : State) (call other : CallId) (pda key : Pubkey) (pc : Pc) (fill : FillId)
variable (entry : Option DelegationEntry) (status : FillStatus) (request : SyncRequest)

@[simp] theorem goto_db : (s.goto call pda pc).db = s.db := rfl
@[simp] theorem goto_fills : (s.goto call pda pc).fills = s.fills := rfl
@[simp] theorem goto_nextFill : (s.goto call pda pc).nextFill = s.nextFill := rfl
@[simp] theorem goto_subscribed : (s.goto call pda pc).subscribed = s.subscribed := rfl
@[simp] theorem goto_requests : (s.goto call pda pc).requests = s.requests := rfl
@[simp] theorem goto_updater : (s.goto call pda pc).updater = s.updater := rfl
@[simp] theorem goto_calls_self : (s.goto call pda pc).calls call = some { pda, pc } := by
  simp [goto]

theorem goto_calls : (s.goto call pda pc).calls other =
    if other = call then some { pda, pc } else s.calls other := by
  simp [goto, Function.update_apply]

@[simp] theorem setEntry_calls : (s.setEntry pda entry).calls = s.calls := rfl
@[simp] theorem setEntry_fills : (s.setEntry pda entry).fills = s.fills := rfl
@[simp] theorem setEntry_nextFill : (s.setEntry pda entry).nextFill = s.nextFill := rfl
@[simp] theorem setEntry_subscribed : (s.setEntry pda entry).subscribed = s.subscribed := rfl
@[simp] theorem setEntry_requests : (s.setEntry pda entry).requests = s.requests := rfl

theorem setEntry_db : (s.setEntry pda entry).db key = if key = pda then entry else s.db key := by
  simp [setEntry, Function.update_apply]

@[simp] theorem setFill_db : (s.setFill fill status).db = s.db := rfl
@[simp] theorem setFill_calls : (s.setFill fill status).calls = s.calls := rfl
@[simp] theorem setFill_nextFill : (s.setFill fill status).nextFill = s.nextFill := rfl
@[simp] theorem setFill_subscribed : (s.setFill fill status).subscribed = s.subscribed := rfl
@[simp] theorem setFill_requests : (s.setFill fill status).requests = s.requests := rfl

theorem setFill_fills (which : FillId) : (s.setFill fill status).fills which =
    if which = fill then some status else s.fills which := by
  simp [setFill, Function.update_apply]

@[simp] theorem enqueue_db : (s.enqueue request).db = s.db := rfl
@[simp] theorem enqueue_calls : (s.enqueue request).calls = s.calls := rfl
@[simp] theorem enqueue_fills : (s.enqueue request).fills = s.fills := rfl
@[simp] theorem enqueue_nextFill : (s.enqueue request).nextFill = s.nextFill := rfl
@[simp] theorem enqueue_subscribed : (s.enqueue request).subscribed = s.subscribed := rfl
@[simp] theorem enqueue_requests : (s.enqueue request).requests = s.requests ++ [request] := rfl

end State

/-- The entry, slot and record an update carries. -/
def AccountUpdate.content :
    AccountUpdate → Option (Pubkey × Nat × Option ParsedDelegationRecord)
  | .delegated pda data slot => some (pda, slot, ParsedDelegationRecord.fromBytes data)
  | .undelegated pda slot => some (pda, slot, none)
  | _ => none

/-- The program graph of `get_record`: the edges leaving each program counter,
with the action that takes them and the shared state they leave behind. The
call itself is moved by `Step`. -/
inductive Edge (s : State) (call : CallId) (pda : Pubkey) : Action → Pc → Pc → State → Prop where
  | hit (found : s.db pda = some entry) (filled : entry.slot ≠ 0) :
      Edge s call pda (.read call) .lookup (.returned entry.record) s
  | wait (found : s.db pda = some entry) (awaits : Awaits fill entry) :
      Edge s call pda (.read call) .lookup (.waiting fill) s
  | refetch (found : s.db pda = some entry) (empty : entry.slot = 0)
      (unowned : entry.pendingFill = none) :
      Edge s call pda (.read call) .lookup (.refetching entry.pendingMinContextSlot) s
  | miss (vacant : s.db pda = none) :
      Edge s call pda (.read call) .lookup (.inserting s.nextFill)
        { s.setFill s.nextFill (.held call) with nextFill := s.nextFill + 1 }
  | joined (resolved : s.fills fill = some (.resolved owner record)) :
      Edge s call pda (.join call) (.waiting fill) (.returned record) s
  | orphaned (dropped : s.fills fill = some .dropped) :
      Edge s call pda (.join call) (.waiting fill) (.discarding fill) s
  | discard (found : s.db pda = some entry) (awaits : Awaits fill entry) :
      Edge s call pda (.discard call) (.discarding fill) .lookup (s.setEntry pda none)
  | skip (gone : ∀ entry, s.db pda = some entry → ¬ Awaits fill entry) :
      Edge s call pda (.discard call) (.discarding fill) .lookup s
  | refetched :
      Edge s call pda (.fetched call rpc) (.refetching slot) (.remerging (fetch rpc pda slot)) s
  | remerge :
      Edge s call pda (.merge call) (.remerging fetched)
        (.returned (mergeFetched (s.db pda) fetched none).2)
        (s.setEntry pda (mergeFetched (s.db pda) fetched none).1)
  | occupied (found : s.db pda = some entry) :
      Edge s call pda (.insert call evicted) (.inserting fill) .lookup (s.setFill fill .dropped)
  | insert (vacant : s.db pda = none) :
      Edge s call pda (.insert call none) (.inserting fill) (.subscribing fill)
        (s.setEntry pda (some (State.placeholder fill)))
  | evict (vacant : s.db pda = none) (other : victim ≠ pda) (present : (s.db victim).isSome) :
      Edge s call pda (.insert call (some victim)) (.inserting fill) (.evicting fill victim)
        ((s.setEntry victim none).setEntry pda (some (State.placeholder fill)))
  | unsubscribe :
      Edge s call pda (.unsubscribe call) (.evicting fill victim) (.subscribing fill)
        (s.enqueue (.unsubscribe victim))
  | subscribe :
      Edge s call pda (.subscribe call) (.subscribing fill) (.awaiting fill)
        (s.enqueue (.subscribe pda call))
  | served (oldest : s.requests = .subscribe requested call :: rest) :
      Edge s call pda (.serve slot) (.awaiting fill) (.claiming fill (minContextSlot slot))
        { s with subscribed := Insert.insert requested s.subscribed, requests := rest }
  | refuse :
      Edge s call pda (.refuse call) (.awaiting fill) (.dropping fill)
        { s with requests := s.requests.filter (· ≠ SyncRequest.subscribe pda call) }
  | withdraw (found : s.db pda = some entry) (awaits : Awaits fill entry) :
      Edge s call pda (.drop call) (.dropping fill) (.fetchingAlone fill) (s.setEntry pda none)
  | lost (gone : ∀ entry, s.db pda = some entry → ¬ Awaits fill entry) :
      Edge s call pda (.drop call) (.dropping fill) .lookup (s.setFill fill .dropped)
  | fetchedAlone :
      Edge s call pda (.fetched call rpc) (.fetchingAlone fill)
        (.resolving fill (fetch rpc pda none).record) s
  | claim (found : s.db pda = some entry) (awaits : Awaits fill entry) :
      Edge s call pda (.claim call) (.claiming fill slot) (.filling fill slot .idle)
        (s.setEntry pda (some { entry with pendingMinContextSlot := slot }))
  | displaced (gone : ∀ entry, s.db pda = some entry → ¬ Awaits fill entry) :
      Edge s call pda (.claim call) (.claiming fill slot) .lookup (s.setFill fill .dropped)
  | arm :
      Edge s call pda (.arm call) (.filling fill slot .idle) (.filling fill slot (.armed false)) s
  | installed (found : s.db pda = some entry) (filled : entry.slot ≠ 0) :
      Edge s call pda (.peek call) (.filling fill slot (.armed woken))
        (.releasing fill entry.record) s
  | park (unfilled : ∀ entry, s.db pda = some entry → entry.slot = 0) :
      Edge s call pda (.peek call) (.filling fill slot (.armed woken))
        (.filling fill slot (.parked woken)) s
  | wake :
      Edge s call pda (.wake call) (.filling fill slot (.parked true)) (.filling fill slot .idle) s
  | fetched :
      Edge s call pda (.fetched call rpc) (.filling fill slot stream)
        (.merging fill (fetch rpc pda slot)) s
  | merge :
      Edge s call pda (.merge call) (.merging fill fetched)
        (.releasing fill (mergeFetched (s.db pda) fetched (some fill)).2)
        (s.setEntry pda (mergeFetched (s.db pda) fetched (some fill)).1)
  | release (found : s.db pda = some entry) (pending : entry.pendingFill = some fill) :
      Edge s call pda (.release call) (.releasing fill record) (.resolving fill record)
        (s.setEntry pda (some { entry with pendingFill := none }))
  | released (gone : ∀ entry, s.db pda = some entry → entry.pendingFill ≠ some fill) :
      Edge s call pda (.release call) (.releasing fill record) (.resolving fill record) s
  | resolve :
      Edge s call pda (.resolve call) (.resolving fill record) (.returned record)
        (s.setFill fill (.resolved call record))
  | cancelOwner (owned : pc.owned = some fill) :
      Edge s call pda (.cancel call) pc .cancelled (s.setFill fill .dropped)
  | cancel (unowned : pc.owned = none) (live : pc.ended = false) :
      Edge s call pda (.cancel call) pc .cancelled s

/-- Every transition of the system: a call along one of its edges, or a step of
the syncer or the updater. -/
inductive Step (s : State) : Action → State → Prop where
  | start (fresh : s.calls call = none) : Step s (.start call pda) (s.goto call pda .lookup)
  | call (running : s.calls call = some { pda, pc })
      (edge : Edge s call pda action pc next shared) :
      Step s action (shared.goto call pda next)
  | serveUnsubscribe (oldest : s.requests = .unsubscribe pda :: rest) :
      Step s (.serve slot) { s with subscribed := s.subscribed.erase pda, requests := rest }
  | serveCancelled (oldest : s.requests = .subscribe pda call :: rest)
      (gone : ∀ own fill, s.calls call ≠ some { pda := own, pc := .awaiting fill }) :
      Step s (.serve slot) { s with subscribed := Insert.insert pda s.subscribed, requests := rest }
  | install (idle : s.updater = .idle) (carried : message.content = some (pda, slot, record))
      (found : s.db pda = some entry) (newer : entry.slot < slot) :
      Step s (.update message)
        { s.setEntry pda (some {
            slot, record, pendingMinContextSlot := none, pendingFill := none }) with
          transitions := s.countTransition pda entry record
          updater := match entry.pendingFill with
            | none => .idle
            | some fill => .notifying fill }
  | ignore (idle : s.updater = .idle) (kept : message ≠ .syncInterrupted)
      (stale : ∀ pda slot record, message.content = some (pda, slot, record) →
        ∀ entry, s.db pda = some entry → slot ≤ entry.slot) :
      Step s (.update message) s
  | interrupt (idle : s.updater = .idle) :
      Step s (.update .syncInterrupted) { s with updater := .clearing }
  | notify (taken : s.updater = .notifying fill) :
      Step s .notify { s with
        calls := fun call => (s.calls call).map (Call.wake fill), updater := .idle }
  | sweep (clearing : s.updater = .clearing) : Step s (.sweep pda) (s.setEntry pda none)
  | swept (clearing : s.updater = .clearing) : Step s .swept { s with updater := .idle }

private theorem read_sound {s : State} {call : CallId} {pda : Pubkey}
    (running : s.calls call = some { pda, pc := .lookup }) :
    Step s (.read call) (s.read call pda) := by
  unfold State.read
  split
  · rename_i entry found
    split
    · exact .call running (.hit found ‹_›)
    · have empty : entry.slot = 0 := by omega
      split
      · rename_i fill pending
        exact .call running (.wait found ⟨empty, pending⟩)
      · exact .call running (.refetch found empty ‹_›)
  · exact .call running (.miss ‹_›)

private theorem insert_sound {s t : State} {call : CallId} {pda : Pubkey} {fill : FillId}
    {evicted : Option Pubkey} (running : s.calls call = some { pda, pc := .inserting fill })
    (inserted : s.insert call pda fill evicted = some t) : Step s (.insert call evicted) t := by
  unfold State.insert at inserted
  split at inserted
  · cases inserted
    exact .call running (.occupied ‹_›)
  · cases inserted
    exact .call running (.insert ‹_›)
  · split at inserted
    · rename_i vacant guarded
      cases inserted
      exact .call running (.evict vacant guarded.1 guarded.2)
    · cases inserted

/-- What removing a placeholder comes to. -/
theorem State.removePendingFill_cases (s : State) (pda : Pubkey) (fill : FillId) :
    (∃ entry, s.db pda = some entry ∧ Awaits fill entry ∧
      s.removePendingFill pda fill = (s.setEntry pda none, true)) ∨
    ((∀ entry, s.db pda = some entry → ¬ Awaits fill entry) ∧
      s.removePendingFill pda fill = (s, false)) := by
  unfold removePendingFill
  cases found : s.db pda with
  | none => exact .inr ⟨by simp, rfl⟩
  | some entry =>
    by_cases awaits : Awaits fill entry
    · exact .inl ⟨entry, rfl, awaits, if_pos awaits⟩
    · refine .inr ⟨?_, if_neg awaits⟩
      intro entry' same
      cases same
      exact awaits

private theorem discard_sound {s : State} {call : CallId} {pda : Pubkey} {fill : FillId}
    (running : s.calls call = some { pda, pc := .discarding fill }) :
    Step s (.discard call) ((s.removePendingFill pda fill).1.goto call pda .lookup) := by
  rcases s.removePendingFill_cases pda fill with ⟨entry, found, awaits, same⟩ | ⟨gone, same⟩
  · rw [same]
    exact .call running (.discard found awaits)
  · rw [same]
    exact .call running (.skip gone)

private theorem drop_sound {s t : State} {call : CallId} {pda : Pubkey} {fill : FillId}
    (running : s.calls call = some { pda, pc := .dropping fill })
    (dropped : (if (s.removePendingFill pda fill).2 then
        some ((s.removePendingFill pda fill).1.goto call pda (.fetchingAlone fill))
      else some ((s.removePendingFill pda fill).1.retry call pda fill)) = some t) :
    Step s (.drop call) t := by
  rcases s.removePendingFill_cases pda fill with ⟨entry, found, awaits, same⟩ | ⟨gone, same⟩
  · simp only [same, if_true, Option.some.injEq] at dropped
    subst dropped
    exact .call running (.withdraw found awaits)
  · simp only [same, Bool.false_eq_true, if_false, Option.some.injEq] at dropped
    subst dropped
    exact .call running (.lost gone)

private theorem claim_sound {s : State} {call : CallId} {pda : Pubkey} {fill : FillId}
    {slot : Option Nat} (running : s.calls call = some { pda, pc := .claiming fill slot }) :
    Step s (.claim call) (s.claim call pda fill slot) := by
  unfold State.claim
  cases found : s.db pda with
  | none => exact .call running (.displaced (by simp [found]))
  | some entry =>
    by_cases awaits : Awaits fill entry
    · simp only [awaits, if_true]
      exact .call running (.claim found awaits)
    · simp only [awaits, if_false]
      refine .call running (.displaced ?_)
      intro entry' same
      cases found.symm.trans same
      exact awaits

private theorem peek_sound {s : State} {call : CallId} {pda : Pubkey} {fill : FillId}
    {slot : Option Nat} {woken : Bool}
    (running : s.calls call = some { pda, pc := .filling fill slot (.armed woken) }) :
    Step s (.peek call) (s.peek call pda fill slot woken) := by
  unfold State.peek
  cases found : s.db pda with
  | none => exact .call running (.park (by simp [found]))
  | some entry =>
    by_cases empty : entry.slot = 0
    · simp only [empty, ne_eq, not_true_eq_false, if_false]
      refine .call running (.park ?_)
      intro entry' same
      cases found.symm.trans same
      exact empty
    · simp only [empty, ne_eq, not_false_eq_true, if_true]
      exact .call running (.installed found empty)

private theorem release_sound {s : State} {call : CallId} {pda : Pubkey} {fill : FillId}
    {record : Option ParsedDelegationRecord}
    (running : s.calls call = some { pda, pc := .releasing fill record }) :
    Step s (.release call) (s.release call pda fill record) := by
  unfold State.release
  cases found : s.db pda with
  | none => exact .call running (.released (by simp [found]))
  | some entry =>
    by_cases pending : entry.pendingFill = some fill
    · simp only [pending, if_true]
      exact .call running (.release found pending)
    · simp only [pending, if_false]
      refine .call running (.released ?_)
      intro entry' same
      cases found.symm.trans same
      exact pending

private theorem serve_sound {s t : State} {slot : Nat} (served : s.serve slot = some t) :
    Step s (.serve slot) t := by
  unfold State.serve at served
  split at served
  · cases served
  · cases served
    exact .serveUnsubscribe ‹_›
  · dsimp only at served
    split at served
    · cases served
      exact .call ‹_› (.served ‹_›)
    · rename_i gone
      cases served
      exact .serveCancelled ‹_› gone

private theorem updateCachedEntry_sound {s : State} {message : AccountUpdate} {pda : Pubkey}
    {slot : Nat} {record : Option ParsedDelegationRecord} (idle : s.updater = .idle)
    (carried : message.content = some (pda, slot, record)) :
    Step s (.update message) (s.updateCachedEntry pda slot record) := by
  have kept : message ≠ .syncInterrupted := by
    rintro rfl
    cases carried
  have ignored (stale : ∀ entry, s.db pda = some entry → slot ≤ entry.slot) :
      Step s (.update message) s := by
    refine .ignore idle kept ?_
    intro pda' slot' record' same
    cases carried.symm.trans same
    exact stale
  unfold State.updateCachedEntry
  split
  · exact ignored (by simp [*])
  · rename_i entry found
    split
    · rename_i old
      apply ignored
      intro entry' same
      cases found.symm.trans same
      exact old
    · exact .install idle carried found (by omega)

private theorem handleUpdate_sound {s : State} {message : AccountUpdate}
    (idle : s.updater = .idle) : Step s (.update message) (s.handleUpdate message) := by
  cases message with
  | delegated pda data slot => exact updateCachedEntry_sound idle rfl
  | undelegated pda slot => exact updateCachedEntry_sound idle rfl
  | syncInterrupted => exact .interrupt idle
  | syncTerminated => exact .ignore idle (by simp) (by simp [AccountUpdate.content])

private theorem cancel_sound {s t : State} {call : CallId} {pda : Pubkey} {pc : Pc}
    (running : s.calls call = some { pda, pc })
    (cancelled : (if pc.ended then none
      else
        match pc.owned with
        | some fill => some ((s.setFill fill .dropped).goto call pda .cancelled)
        | none => some (s.goto call pda .cancelled)) = some t) :
    Step s (.cancel call) t := by
  split at cancelled
  · cases cancelled
  · rename_i live
    split at cancelled
    · cases cancelled
      exact .call running (.cancelOwner ‹_›)
    · cases cancelled
      exact .call running (.cancel ‹_› (by simpa using live))

/-- The executable step function takes only listed transitions. -/
theorem step_sound {s t : State} {action : Action} (fired : step s action = some t) :
    Step s action t := by
  cases action <;> simp only [step] at fired
  case start call pda =>
    split at fired <;> cases fired
    exact .start ‹_›
  case read call =>
    split at fired <;> cases fired
    exact read_sound ‹_›
  case join call =>
    split at fired
    · split at fired <;> cases fired
      · exact .call ‹_› (.joined ‹_›)
      · exact .call ‹_› (.orphaned ‹_›)
    · cases fired
  case discard call =>
    split at fired <;> cases fired
    exact discard_sound ‹_›
  case fetched call rpc =>
    split at fired <;> cases fired
    · exact .call ‹_› .refetched
    · exact .call ‹_› .fetched
    · exact .call ‹_› .fetchedAlone
  case merge call =>
    split at fired <;> cases fired
    · exact .call ‹_› .remerge
    · exact .call ‹_› .merge
  case insert call evicted =>
    split at fired
    · exact insert_sound ‹_› fired
    · cases fired
  case unsubscribe call =>
    split at fired <;> cases fired
    exact .call ‹_› .unsubscribe
  case subscribe call =>
    split at fired <;> cases fired
    exact .call ‹_› .subscribe
  case claim call =>
    split at fired <;> cases fired
    exact claim_sound ‹_›
  case arm call =>
    split at fired <;> cases fired
    exact .call ‹_› .arm
  case peek call =>
    split at fired <;> cases fired
    exact peek_sound ‹_›
  case wake call =>
    split at fired <;> cases fired
    exact .call ‹_› .wake
  case release call =>
    split at fired <;> cases fired
    exact release_sound ‹_›
  case resolve call =>
    split at fired <;> cases fired
    exact .call ‹_› .resolve
  case drop call =>
    split at fired
    · exact drop_sound ‹_› fired
    · cases fired
  case cancel call =>
    split at fired
    · exact cancel_sound ‹_› fired
    · cases fired
  case serve slot => exact serve_sound fired
  case refuse call =>
    split at fired <;> cases fired
    exact .call ‹_› .refuse
  case update message =>
    split at fired <;> cases fired
    exact handleUpdate_sound ‹_›
  case notify =>
    split at fired <;> cases fired
    exact .notify ‹_›
  case sweep pda =>
    split at fired <;> cases fired
    exact .sweep ‹_›
  case swept =>
    split at fired <;> cases fired
    exact .swept ‹_›

end MagicRouter.Delegations
