import MagicRouter.Cache.DelegationsStep

/-! The transitions of the delegation cache seen from one call, one fill and one
cache entry: how each came to be what it is after a step. -/

namespace MagicRouter.Delegations

/-- How a call came to be where it is after a step. -/
inductive Origin (s : State) (action : Action) (t : State) (call : CallId) (pda : Pubkey) :
    Pc → Prop where
  | same (running : s.calls call = some { pda, pc }) : Origin s action t call pda pc
  | started (fresh : s.calls call = none) (starts : action = .start call pda) :
      Origin s action t call pda .lookup
  | moved (running : s.calls call = some { pda, pc }) (edge : Edge s call pda action pc next shared)
      (reached : t = shared.goto call pda next) : Origin s action t call pda next
  | woken (running : s.calls call = some { pda, pc := .filling fill slot stream }) :
      Origin s action t call pda (.filling fill slot stream')

/-- Where a call is after a step: where it was, along an edge, or woken. -/
inductive Fate (s : State) (action : Action) (t : State) (call : CallId) (pda : Pubkey) :
    Pc → Prop where
  | same (running : t.calls call = some { pda, pc }) : Fate s action t call pda pc
  | moved (edge : Edge s call pda action pc next shared)
      (reached : t = shared.goto call pda next) : Fate s action t call pda pc
  | woken (running : t.calls call = some { pda, pc := .filling fill slot stream' }) :
      Fate s action t call pda (.filling fill slot stream)

/-- How a fill's channel came to be in its state after a step: unchanged, just
created, or given up by the call that held its sender. -/
inductive ChannelChange (s t : State) (fill : FillId) : Prop where
  | same (kept : t.fills fill = s.fills fill)
  | created (fresh : fill = s.nextFill) (next : t.nextFill = s.nextFill + 1)
      (held : t.fills fill = some (.held call))
      (owner : t.calls call = some { pda, pc := .inserting fill })
  | dropped (running : s.calls call = some { pda, pc }) (owned : pc.owned = some fill)
      (moved : t.calls call = some { pda, pc := next }) (free : next.owned = none)
      (outcome : t.fills fill = some .dropped)
  | resolved (running : s.calls call = some { pda, pc := .resolving fill record })
      (moved : t.calls call = some { pda, pc := .returned record })
      (outcome : t.fills fill = some (.resolved call record))

/-- The fill whose placeholder the call has put into its entry and not cleared. -/
def Pc.posted : Pc → Option FillId
  | .evicting fill _ | .subscribing fill | .awaiting fill | .dropping fill | .claiming fill _
  | .filling fill _ _ | .merging fill _ | .releasing fill _ => some fill
  | _ => none

/-- The minimal context slot of the fetch a call is making. -/
def Pc.fetching : Pc → Option (Option Nat)
  | .refetching slot | .filling _ slot _ => some slot
  | .fetchingAlone _ => some none
  | _ => none

/-- The entry a call has fetched and is about to merge. -/
def Pc.fetched : Pc → Option DelegationEntry
  | .remerging fetched | .merging _ fetched => some fetched
  | _ => none

/-- How an entry came to be what it is after a step. -/
inductive EntryChange (s t : State) (pda : Pubkey) : Action → Option DelegationEntry → Prop where
  | same : EntryChange s t pda action (s.db pda)
  | placed (running : s.calls call = some { pda, pc := .inserting fill })
      (vacant : s.db pda = none) (moved : t.calls call = some { pda, pc := next })
      (posts : next = .subscribing fill ∨ ∃ victim, next = .evicting fill victim) :
      EntryChange s t pda (.insert call evicted) (some (State.placeholder fill))
  | evicted : EntryChange s t pda (.insert call (some pda)) none
  | removed (running : s.calls call = some { pda, pc })
      (removes : pc = .discarding fill ∨ pc = .dropping fill)
      (found : s.db pda = some entry) (awaits : Awaits fill entry) :
      EntryChange s t pda action none
  | claimed (running : s.calls call = some { pda, pc := .claiming fill slot })
      (found : s.db pda = some entry) (awaits : Awaits fill entry) :
      EntryChange s t pda (.claim call) (some { entry with pendingMinContextSlot := slot })
  | remerged (running : s.calls call = some { pda, pc := .remerging fetched }) :
      EntryChange s t pda (.merge call) (mergeFetched (s.db pda) fetched none).1
  | merged (running : s.calls call = some { pda, pc := .merging fill fetched }) :
      EntryChange s t pda (.merge call) (mergeFetched (s.db pda) fetched (some fill)).1
  | released (running : s.calls call = some { pda, pc := .releasing fill record })
      (found : s.db pda = some entry) (pending : entry.pendingFill = some fill) :
      EntryChange s t pda (.release call) (some { entry with pendingFill := none })
  | installed (carried : message.content = some (pda, slot, record))
      (found : s.db pda = some entry) (newer : entry.slot < slot) :
      EntryChange s t pda (.update message)
        (some { slot, record, pendingMinContextSlot := none, pendingFill := none })
  | swept : EntryChange s t pda (.sweep pda) none

/-- How an entry that stays in the cache changes in a step: it keeps its slot and
record, or it is replaced by a newer fetch or stream update. -/
inductive Renewal (s : State) (action : Action) (pda : Pubkey) (before after : DelegationEntry) :
    Prop where
  | kept (slot : before.slot = after.slot) (record : before.record = after.record)
      (pending : after.pendingFill = none ∨ after.pendingFill = before.pendingFill)
  | fetched (newer : before.slot < after.slot) (unowned : after.pendingFill = none)
      (running : s.calls call = some { pda, pc }) (carries : pc.fetched = some after)
  | streamed (newer : before.slot < after.slot) (unowned : after.pendingFill = none)
      (updates : action = .update message)
      (carried : message.content = some (pda, after.slot, after.record))

variable {s t shared : State} {action : Action} {call other : CallId} {pda key : Pubkey}
variable {pc next : Pc} {fill : FillId} {entry : DelegationEntry}

/-- The outcomes of `merge_fetched`: no entry, another fill's placeholder, a
newer fetch, or an entry that is at least as new. -/
theorem mergeFetched_cases (entry : Option DelegationEntry) (fetched : DelegationEntry)
    (fill : Option FillId) :
    (entry = none ∧ mergeFetched entry fetched fill = (none, fetched.record)) ∨
    ∃ current, entry = some current ∧
      ((∃ pending, current.pendingFill = some pending ∧ some pending ≠ fill ∧
          mergeFetched entry fetched fill = (some current, fetched.record)) ∨
        ((current.pendingFill = none ∨ current.pendingFill = fill) ∧
          (current.slot < fetched.slot ∧
              mergeFetched entry fetched fill = (some fetched, fetched.record) ∨
            fetched.slot ≤ current.slot ∧
              mergeFetched entry fetched fill = (some current, current.record)))) := by
  cases entry with
  | none => exact .inl ⟨rfl, rfl⟩
  | some current =>
    refine .inr ⟨current, rfl, ?_⟩
    unfold mergeFetched
    by_cases foreign : current.pendingFill.any (fun pending => some pending ≠ fill) = true
    · obtain ⟨pending, found, different⟩ := (Option.any_eq_true _ _).mp foreign
      exact .inl ⟨pending, found, of_decide_eq_true different, if_pos foreign⟩
    · have own : current.pendingFill = none ∨ current.pendingFill = fill := by
        cases found : current.pendingFill with
        | none => exact .inl rfl
        | some pending => exact .inr (by simpa [found] using foreign)
      refine .inr ⟨own, ?_⟩
      by_cases newer : current.slot < fetched.slot
      · exact .inl ⟨newer, (if_neg foreign).trans (if_pos newer)⟩
      · exact .inr ⟨Nat.le_of_not_lt newer, (if_neg foreign).trans (if_neg newer)⟩

/-- Merging into an entry keeps it or replaces it by a newer fetch. -/
theorem mergeFetched_some (current fetched : DelegationEntry) (fill : Option FillId) :
    ∃ after, (mergeFetched (some current) fetched fill).1 = some after ∧
      (after = current ∨ after = fetched ∧ current.slot < fetched.slot) := by
  rcases mergeFetched_cases (some current) fetched fill with ⟨vacant, _⟩ | ⟨_, same, outcome⟩
  · cases vacant
  · cases same
    rcases outcome with ⟨_, _, _, same⟩ | ⟨_, ⟨newer, same⟩ | ⟨_, same⟩⟩
    · exact ⟨current, by rw [same], .inl rfl⟩
    · exact ⟨fetched, by rw [same], .inr ⟨rfl, newer⟩⟩
    · exact ⟨current, by rw [same], .inl rfl⟩

/-- Merging neither adds nor removes an entry. -/
theorem mergeFetched_eq_none {entry : Option DelegationEntry} {fetched : DelegationEntry}
    {fill : Option FillId} : (mergeFetched entry fetched fill).1 = none ↔ entry = none := by
  cases entry with
  | none => exact ⟨fun _ => rfl, fun _ => rfl⟩
  | some current =>
    obtain ⟨after, same, _⟩ := mergeFetched_some current fetched fill
    simp [same]

theorem Edge.calls (edge : Edge s call pda action pc next shared) : shared.calls = s.calls := by
  cases edge <;> rfl

/-- A moved call is where the edge says; every other call is where it was. -/
theorem State.goto_found {found : Call}
    (looked : (s.goto call pda next).calls other = some found) :
    (other = call ∧ found = { pda, pc := next }) ∨ (other ≠ call ∧ s.calls other = some found) := by
  rw [State.goto_calls] at looked
  split at looked
  · exact .inl ⟨‹_›, (Option.some.inj looked).symm⟩
  · exact .inr ⟨‹_›, looked⟩

/-- Waking changes at most the progress of `stream_fill`. -/
theorem Call.wake_cases (fill : FillId) (call : Call) :
    call.wake fill = call ∨ ∃ own slot stream stream', call.pc = .filling own slot stream ∧
      call.wake fill = { call with pc := .filling own slot stream' } := by
  unfold Call.wake
  split
  · split
    · exact .inr ⟨_, _, _, _, ‹_›, rfl⟩
    · exact .inl rfl
  · split
    · exact .inr ⟨_, _, _, _, ‹_›, rfl⟩
    · exact .inl rfl
  · exact .inl rfl

theorem Step.origin (step : Step s action t) (found : t.calls call = some { pda, pc }) :
    Origin s action t call pda pc := by
  cases step with
  | start fresh =>
    rcases State.goto_found found with ⟨rfl, same⟩ | ⟨_, before⟩
    · cases same
      exact .started fresh rfl
    · exact .same before
  | call running edge =>
    rcases State.goto_found found with ⟨rfl, same⟩ | ⟨_, before⟩
    · cases same
      exact .moved running edge rfl
    · exact .same (edge.calls ▸ before)
  | @notify fill _ =>
    obtain ⟨before, running, woken⟩ := Option.map_eq_some_iff.mp found
    rcases before.wake_cases fill with same | ⟨own, slot, stream, stream', filling, moved⟩
    · exact .same (by rw [running, ← same, woken])
    · cases woken.symm.trans moved
      exact .woken (running.trans (congrArg (fun pc => some (Call.mk before.pda pc)) filling))
  | serveUnsubscribe | serveCancelled | install | ignore | interrupt | sweep | swept =>
    exact .same found

theorem Step.fate (step : Step s action t) (running : s.calls call = some { pda, pc }) :
    Fate s action t call pda pc := by
  cases step with
  | @start other _ fresh =>
    have different : call ≠ other := by
      rintro rfl
      simp [fresh] at running
    exact .same (by rw [State.goto_calls, if_neg different, running])
  | @call other _ _ _ _ _ theirs edge =>
    by_cases same : call = other
    · subst same
      cases running.symm.trans theirs
      exact .moved edge rfl
    · exact .same (by rw [State.goto_calls, if_neg same, edge.calls, running])
  | @notify fill _ =>
    have woken : (s.calls call).map (Call.wake fill) = some (Call.wake fill { pda, pc }) := by
      rw [running, Option.map_some]
    rcases Call.wake_cases fill { pda, pc } with same | ⟨own, slot, stream, stream', rfl, moved⟩
    · exact .same (woken.trans (congrArg some same))
    · exact .woken (woken.trans (congrArg some moved))
  | serveUnsubscribe | serveCancelled | install | ignore | interrupt | sweep | swept =>
    exact .same running

/-- A call keeps its account. -/
theorem Step.calls_pda (step : Step s action t) (running : s.calls call = some { pda, pc }) :
    ∃ next, t.calls call = some { pda, pc := next } := by
  cases step.fate running with
  | same after => exact ⟨_, after⟩
  | moved _ reached => exact ⟨_, reached ▸ State.goto_calls_self ..⟩
  | woken after => exact ⟨_, after⟩

private theorem ChannelChange.of_dropped {own : FillId} (running : s.calls call = some { pda, pc })
    (owned : pc.owned = some own) (free : next.owned = none) :
    ChannelChange s ((s.setFill own .dropped).goto call pda next) fill := by
  by_cases same : fill = own
  · subst same
    exact .dropped running owned (State.goto_calls_self ..) free (by simp [State.setFill_fills])
  · exact .same (by simp [State.setFill_fills, same])

theorem Step.channel (step : Step s action t) (fill : FillId) : ChannelChange s t fill := by
  cases step with
  | start | serveUnsubscribe | serveCancelled | install | ignore | interrupt | notify | sweep
  | swept => exact .same rfl
  | call running edge =>
    cases edge with
    | miss =>
      by_cases same : fill = s.nextFill
      · subst same
        exact .created rfl rfl (by simp [State.setFill_fills]) (State.goto_calls_self ..)
      · exact .same (by simp [State.setFill_fills, same])
    | occupied | lost | displaced => exact .of_dropped running rfl rfl
    | cancelOwner owned => exact .of_dropped running owned rfl
    | @resolve own record =>
      by_cases same : fill = own
      · subst same
        exact .resolved running (State.goto_calls_self ..) (by simp [State.setFill_fills])
      · exact .same (by simp [State.setFill_fills, same])
    | hit | wait | refetch | joined | orphaned | discard | skip | refetched | remerge | insert | evict
    | unsubscribe | subscribe | served | refuse | withdraw | fetchedAlone | claim | arm | installed
    | park | wake | fetched | merge | release | released | cancel => exact .same rfl

/-- An update of one entry, seen from every entry. -/
private theorem EntryChange.of_setEntry {entry : Option DelegationEntry}
    (changed : EntryChange s t pda action entry) :
    EntryChange s t key action ((s.setEntry pda entry).db key) := by
  rw [State.setEntry_db]
  split
  · subst key
    exact changed
  · exact .same

theorem Step.entryChange (step : Step s action t) (key : Pubkey) :
    EntryChange s t key action (t.db key) := by
  cases step with
  | start | serveUnsubscribe | serveCancelled | ignore | interrupt | notify | swept => exact .same
  | install _ carried found newer => exact .of_setEntry (.installed carried found newer)
  | sweep => exact .of_setEntry .swept
  | call running edge =>
    cases edge with
    | hit | wait | refetch | miss | joined | orphaned | skip | refetched | occupied | unsubscribe
    | subscribe | served | refuse | lost | fetchedAlone | displaced | arm | installed | park | wake
    | fetched | released | resolve | cancelOwner | cancel => exact .same
    | discard found awaits => exact .of_setEntry (.removed running (.inl rfl) found awaits)
    | withdraw found awaits => exact .of_setEntry (.removed running (.inr rfl) found awaits)
    | insert vacant =>
      exact .of_setEntry (.placed running vacant (State.goto_calls_self ..) (.inl rfl))
    | @evict victim fill vacant other present =>
      rw [State.goto_db, State.setEntry_db, State.setEntry_db]
      split
      · subst key
        exact .placed running vacant (State.goto_calls_self ..) (.inr ⟨_, rfl⟩)
      · split
        · subst key
          exact .evicted
        · exact .same
    | claim found awaits => exact .of_setEntry (.claimed running found awaits)
    | remerge => exact .of_setEntry (.remerged running)
    | merge => exact .of_setEntry (.merged running)
    | release found pending => exact .of_setEntry (.released running found pending)

/-- A pending fill was pending before: only a placeholder brings one. -/
theorem Renewal.pending {before after : DelegationEntry}
    (renewal : Renewal s action pda before after) (pending : after.pendingFill = some fill) :
    before.pendingFill = some fill := by
  cases renewal with
  | kept _ _ kept =>
    rcases kept with none | same
    · simp [none] at pending
    · exact same ▸ pending
  | fetched _ unowned => simp [unowned] at pending
  | streamed _ unowned => simp [unowned] at pending

/-- An edge hands on the sender its call holds, or creates a fresh one. -/
theorem Edge.owned (edge : Edge s call pda action pc next shared) (owned : next.owned = some fill) :
    pc.owned = some fill ∨ fill = s.nextFill ∧ shared.fills fill = some (.held call) := by
  cases edge with
  | miss =>
    cases owned
    exact .inr ⟨rfl, by simp [State.setFill_fills]⟩
  | insert | evict | unsubscribe | subscribe | served | refuse | withdraw | fetchedAlone | claim
  | arm | installed | park | wake | fetched | merge | release | released => exact .inl owned
  | hit | wait | refetch | joined | orphaned | discard | skip | refetched | remerge | occupied | lost
  | displaced | resolve | cancelOwner | cancel => cases owned

/-- A call stops serving its placeholder only once it is not in the entry. -/
theorem Edge.posted (edge : Edge s call pda action pc next shared) (posted : pc.posted = some fill)
    (owned : next.owned = some fill) :
    next.posted = some fill ∨ ∀ entry, shared.db pda = some entry → entry.pendingFill ≠ some fill := by
  cases edge with
  | unsubscribe | subscribe | served | refuse | claim | arm | installed | park | wake | fetched
  | merge => exact .inl owned
  | withdraw => exact .inr (by simp [State.setEntry_db])
  | release => exact .inr (by simp [State.setEntry_db])
  | released gone =>
    cases posted
    exact .inr gone
  | hit | wait | refetch | miss | joined | orphaned | discard | skip | refetched | remerge | insert
  | evict | fetchedAlone | resolve => cases posted
  | occupied | lost | displaced | cancelOwner | cancel => cases owned

theorem Step.nextFill_le (step : Step s action t) : s.nextFill ≤ t.nextFill := by
  cases step with
  | call _ edge => cases edge <;> first | exact Nat.le_refl _ | exact Nat.le_succ _
  | _ => exact Nat.le_refl _

/-- A fetched entry waits for nothing. -/
theorem fetch_settled (rpc : Rpc) (pda : Pubkey) (slot : Option Nat) :
    (fetch rpc pda slot).pendingFill = none ∧
      (fetch rpc pda slot).pendingMinContextSlot = none := by
  suffices fetches : ∀ left attempt, (fetchFrom (rpc pda slot) left attempt).pendingFill = none ∧
      (fetchFrom (rpc pda slot) left attempt).pendingMinContextSlot = none from fetches _ _
  intro left
  induction left with
  | zero => exact fun _ => ⟨rfl, rfl⟩
  | succ left ih =>
    intro attempt
    unfold fetchFrom
    split
    · exact ⟨rfl, rfl⟩
    · exact ⟨rfl, rfl⟩
    · exact ih _

/-- What a call carries from a fetch it carried before the step, or has just fetched. -/
theorem Step.fetched_before {fetched : DelegationEntry} (step : Step s action t)
    (found : t.calls call = some { pda, pc }) (carries : pc.fetched = some fetched) :
    s.calls call = some { pda, pc } ∨ ∃ rpc pc' slot, action = .fetched call rpc ∧
      s.calls call = some { pda, pc := pc' } ∧ pc'.fetching = some slot ∧
      fetched = fetch rpc pda slot := by
  cases step.origin found with
  | same running => exact .inl running
  | started => cases carries
  | woken => cases carries
  | moved running edge =>
    cases edge with
    | refetched | fetched =>
      cases carries
      exact .inr ⟨_, _, _, rfl, running, rfl, rfl⟩
    | _ => cases carries

/-- A held sender was held by the same call before the step, unless just created. -/
theorem Step.owned_before (step : Step s action t) (found : t.calls call = some { pda, pc })
    (owned : pc.owned = some fill) :
    (∃ pc', s.calls call = some { pda, pc := pc' } ∧ pc'.owned = some fill) ∨
      fill = s.nextFill ∧ t.fills fill = some (.held call) := by
  cases step.origin found with
  | same running => exact .inl ⟨_, running, owned⟩
  | started => cases owned
  | moved running edge reached =>
    rcases edge.owned owned with kept | ⟨fresh, held⟩
    · exact .inl ⟨_, running, kept⟩
    · exact .inr ⟨fresh, reached ▸ held⟩
  | woken running => exact .inl ⟨_, running, owned⟩

end MagicRouter.Delegations
