import MagicRouter.Cache.DelegationsChange
import MagicRouter.Library.Run

/-! Invariants of the delegation cache under every interleaving: which call
holds which fill, whose placeholders sit in the entries, and the shape of the
entries themselves. -/

namespace MagicRouter.Delegations

open Library

variable {s t : State} {action : Action} {call other : CallId} {pda key : Pubkey}
variable {pc : Pc} {fill : FillId} {entry : DelegationEntry}

/-- What holds of calls, fills and entries in every reachable state. -/
structure Coherent (s : State) : Prop where
  /-- fills are created in order -/
  fresh : ∀ fill, s.nextFill ≤ fill → s.fills fill = none
  /-- the sender a call holds is recorded as its own -/
  owners : ∀ call pda pc fill, s.calls call = some { pda, pc } → pc.owned = some fill →
    s.fills fill = some (.held call)
  /-- a call removes only placeholders of cancelled fills -/
  orphaned : ∀ call pda fill, s.calls call = some { pda, pc := .discarding fill } →
    s.fills fill = some .dropped
  fetched : ∀ call pda pc fetched, s.calls call = some { pda, pc } → pc.fetched = some fetched →
    fetched.pendingFill = none
  /-- a filled entry has no pending fill -/
  filled : ∀ pda entry, s.db pda = some entry → entry.slot ≠ 0 → entry.pendingFill = none
  empty : ∀ pda entry, s.db pda = some entry → entry.slot = 0 → entry.record = none
  /-- the fill pending on an entry is unresolved, and a call holding its sender
  is serving that entry -/
  pending : ∀ pda entry fill, s.db pda = some entry → entry.pendingFill = some fill →
    (s.fills fill ≠ none ∧ ∀ owner record, s.fills fill ≠ some (.resolved owner record)) ∧
      ∀ call key pc, s.calls call = some { pda := key, pc } → pc.owned = some fill →
        key = pda ∧ pc.posted = some fill

theorem Coherent.init : Coherent State.init where
  fresh _ _ := rfl
  owners _ _ _ _ running := by cases running
  orphaned _ _ _ running := by cases running
  fetched _ _ _ _ running := by cases running
  filled _ _ found := by cases found
  empty _ _ found := by cases found
  pending _ _ _ found := by cases found

namespace Coherent

variable (coherent : Coherent s)
include coherent

theorem created_fresh (known : s.fills fill ≠ none) : fill ≠ s.nextFill := by
  rintro rfl
  exact known (coherent.fresh _ (Nat.le_refl _))

theorem owner_unique {pc' : Pc} (mine : s.calls call = some { pda, pc })
    (owned : pc.owned = some fill) (theirs : s.calls other = some { pda := key, pc := pc' })
    (owned' : pc'.owned = some fill) : other = call := by
  have held := coherent.owners _ _ _ _ mine owned
  have held' := coherent.owners _ _ _ _ theirs owned'
  exact FillStatus.held.inj (Option.some.inj (held'.symm.trans held))

theorem owners_step (step : Step s action t) (found : t.calls call = some { pda, pc })
    (owned : pc.owned = some fill) : t.fills fill = some (.held call) := by
  rcases step.owned_before found owned with ⟨pc', running, owned'⟩ | ⟨_, held⟩
  · have held := coherent.owners _ _ _ _ running owned'
    cases step.channel fill with
    | same kept => exact kept.trans held
    | created fresh => exact absurd fresh (coherent.created_fresh (by simp [held]))
    | dropped theirs owned'' moved free =>
      cases coherent.owner_unique running owned' theirs owned''
      cases found.symm.trans moved
      simp [free] at owned
    | resolved theirs moved =>
      cases coherent.owner_unique running owned' theirs rfl
      cases found.symm.trans moved
      cases owned
  · exact held

theorem fresh_step (step : Step s action t) (beyond : t.nextFill ≤ fill) : t.fills fill = none := by
  have unknown : s.fills fill = none := coherent.fresh _ (step.nextFill_le.trans beyond)
  cases step.channel fill with
  | same kept => exact kept.trans unknown
  | created fresh next => exact absurd beyond (by simp [next, fresh])
  | dropped running owned => simp [coherent.owners _ _ _ _ running owned] at unknown
  | resolved running => simp [coherent.owners _ _ _ _ running rfl] at unknown

/-- A sender that was used or dropped stays so. -/
theorem settled_step {status : FillStatus} (step : Step s action t)
    (settled : s.fills fill = some status) (given : ∀ owner, status ≠ .held owner) :
    t.fills fill = some status := by
  cases step.channel fill with
  | same kept => exact kept.trans settled
  | created fresh => exact absurd fresh (coherent.created_fresh (by simp [settled]))
  | dropped running owned =>
    cases settled.symm.trans (coherent.owners _ _ _ _ running owned)
    exact absurd rfl (given _)
  | resolved running =>
    cases settled.symm.trans (coherent.owners _ _ _ _ running rfl)
    exact absurd rfl (given _)

theorem orphaned_step (step : Step s action t)
    (found : t.calls call = some { pda, pc := .discarding fill }) : t.fills fill = some .dropped := by
  cases step.origin found with
  | same running => exact coherent.settled_step step (coherent.orphaned _ _ _ running) (by simp)
  | moved running edge reached =>
    cases edge with
    | orphaned dropped => exact reached ▸ dropped

theorem fetched_step {fetched : DelegationEntry} (step : Step s action t)
    (found : t.calls call = some { pda, pc }) (carries : pc.fetched = some fetched) :
    fetched.pendingFill = none := by
  rcases step.fetched_before found carries with running | ⟨rpc, _, slot, _, _, _, rfl⟩
  · exact coherent.fetched _ _ _ _ running carries
  · exact (fetch_settled rpc pda slot).1

/-- What a merge leaves in an entry: what was there, or a newer fetch. -/
theorem merged_entry {fetched : DelegationEntry} {own : Option FillId}
    (running : s.calls call = some { pda, pc }) (carries : pc.fetched = some fetched)
    (merged : (mergeFetched (s.db pda) fetched own).1 = some entry) :
    s.db pda = some entry ∨
      entry = fetched ∧ entry.pendingFill = none ∧
        ∃ current, s.db pda = some current ∧ current.slot < entry.slot := by
  cases found : s.db pda with
  | none =>
    rw [found] at merged
    cases merged
  | some current =>
    obtain ⟨after, same, outcome⟩ := mergeFetched_some current fetched own
    cases (found ▸ merged).symm.trans same
    rcases outcome with rfl | ⟨rfl, newer⟩
    · exact .inl rfl
    · exact .inr ⟨rfl, coherent.fetched _ _ _ _ running carries, current, rfl, newer⟩

/-- Where the entry after a step comes from: a placeholder just put, or the entry
that was there. -/
theorem entry_step (step : Step s action t) (found : t.db key = some entry) :
    (∃ call fill next, s.calls call = some { pda := key, pc := .inserting fill } ∧
      s.db key = none ∧ t.calls call = some { pda := key, pc := next } ∧ next.posted = some fill ∧
      entry = State.placeholder fill) ∨
    ∃ before, s.db key = some before ∧ Renewal s action key before entry := by
  have merged {call : CallId} {pc : Pc} {fetched : DelegationEntry} {own : Option FillId}
      (running : s.calls call = some { pda := key, pc }) (carries : pc.fetched = some fetched)
      (result : (mergeFetched (s.db key) fetched own).1 = some entry) :
      ∃ before, s.db key = some before ∧ Renewal s action key before entry := by
    rcases coherent.merged_entry running carries result with
      kept | ⟨rfl, unowned, before, found, newer⟩
    · exact ⟨entry, kept, .kept rfl rfl (.inr rfl)⟩
    · exact ⟨before, found, .fetched newer unowned running carries⟩
  generalize after : t.db key = changed at found
  cases after ▸ step.entryChange key with
  | same => exact .inr ⟨entry, found, .kept rfl rfl (.inr rfl)⟩
  | placed running vacant moved posts =>
    cases found
    refine .inl ⟨_, _, _, running, vacant, moved, ?_, rfl⟩
    rcases posts with rfl | ⟨victim, rfl⟩ <;> rfl
  | evicted | removed | swept => cases found
  | claimed _ before =>
    cases found
    exact .inr ⟨_, before, .kept rfl rfl (.inr rfl)⟩
  | remerged running => exact .inr (merged running rfl found)
  | merged running => exact .inr (merged running rfl found)
  | released _ before =>
    cases found
    exact .inr ⟨_, before, .kept rfl rfl (.inl rfl)⟩
  | installed carried before newer =>
    cases found
    exact .inr ⟨_, before, .streamed newer rfl rfl carried⟩

theorem filled_step (step : Step s action t) (found : t.db key = some entry)
    (filled : entry.slot ≠ 0) : entry.pendingFill = none := by
  rcases coherent.entry_step step found with ⟨_, _, _, _, _, _, _, rfl⟩ | ⟨before, held, renewal⟩
  · exact absurd rfl filled
  · cases renewal with
    | kept slot _ pending =>
      rcases pending with none | same
      · exact none
      · rw [same]
        exact coherent.filled _ _ held (slot ▸ filled)
    | fetched _ unowned => exact unowned
    | streamed _ unowned => exact unowned

theorem empty_step (step : Step s action t) (found : t.db key = some entry)
    (empty : entry.slot = 0) : entry.record = none := by
  rcases coherent.entry_step step found with ⟨_, _, _, _, _, _, _, rfl⟩ | ⟨before, held, renewal⟩
  · rfl
  · cases renewal with
    | kept slot record =>
      rw [← record]
      exact coherent.empty _ _ held (slot.trans empty)
    | fetched newer => omega
    | streamed newer => omega

/-- The fill pending on an entry is not resolved by the step that leaves it there. -/
theorem pending_channel_step (step : Step s action t) (known : s.fills fill ≠ none)
    (unresolved : ∀ owner record, s.fills fill ≠ some (.resolved owner record))
    (served : ∀ call key pc, s.calls call = some { pda := key, pc } → pc.owned = some fill →
      ∀ record, pc ≠ .resolving fill record) :
    t.fills fill ≠ none ∧ ∀ owner record, t.fills fill ≠ some (.resolved owner record) := by
  cases step.channel fill with
  | same kept => exact ⟨kept ▸ known, fun owner record => kept ▸ unresolved owner record⟩
  | created fresh => exact absurd fresh (coherent.created_fresh known)
  | dropped _ _ _ _ outcome => simp [outcome]
  | resolved running => exact absurd rfl (served _ _ _ running rfl _)

theorem pending_step (step : Step s action t) (found : t.db pda = some entry)
    (pending : entry.pendingFill = some fill) :
    (t.fills fill ≠ none ∧ ∀ owner record, t.fills fill ≠ some (.resolved owner record)) ∧
      ∀ call key pc, t.calls call = some { pda := key, pc } → pc.owned = some fill →
        key = pda ∧ pc.posted = some fill := by
  rcases coherent.entry_step step found with
    ⟨call, own, next, running, vacant, moved, posts, rfl⟩ | ⟨before, held, renewal⟩
  · -- the placeholder was put by this step, and no other call holds its sender
    cases pending
    have mine := coherent.owners _ _ _ _ running rfl
    refine ⟨coherent.pending_channel_step step (by simp [mine]) (by simp [mine]) ?_, ?_⟩
    · rintro other key pc theirs owned record rfl
      cases coherent.owner_unique running rfl theirs owned
      cases running.symm.trans theirs
    · intro other key pc theirs owned
      rcases step.owned_before theirs owned with ⟨pc', before, owned'⟩ | ⟨fresh, _⟩
      · cases coherent.owner_unique running rfl before owned'
        cases moved.symm.trans theirs
        exact ⟨rfl, posts⟩
      · exact absurd fresh (coherent.created_fresh (by simp [mine]))
  · obtain ⟨⟨known, unresolved⟩, served⟩ := coherent.pending _ _ _ held (renewal.pending pending)
    refine ⟨coherent.pending_channel_step step known unresolved ?_, ?_⟩
    · rintro other key pc theirs owned record rfl
      cases (served _ _ _ theirs owned).2
    · intro other key pc theirs owned
      cases step.origin theirs with
      | same running => exact served _ _ _ running owned
      | started => cases owned
      | woken running =>
        cases owned
        exact ⟨(served _ _ _ running rfl).1, rfl⟩
      | moved running edge reached =>
        rcases edge.owned owned with kept | ⟨fresh, _⟩
        · obtain ⟨rfl, posted⟩ := served _ _ _ running kept
          rcases edge.posted posted owned with still | gone
          · exact ⟨rfl, still⟩
          · exact absurd pending (gone entry (by simpa [reached] using found))
        · exact absurd fresh (coherent.created_fresh known)

theorem step (step : Step s action t) : Coherent t where
  fresh _ beyond := coherent.fresh_step step beyond
  owners _ _ _ _ found owned := coherent.owners_step step found owned
  orphaned _ _ _ found := coherent.orphaned_step step found
  fetched _ _ _ _ found carries := coherent.fetched_step step found carries
  filled _ _ found filled := coherent.filled_step step found filled
  empty _ _ found empty := coherent.empty_step step found empty
  pending _ _ _ found pending := coherent.pending_step step found pending

end Coherent

/-- Every reachable state is coherent. -/
theorem Coherent.reached {actions : List Action}
    (run : Run (Fires Delegations.step) State.init actions s) : Coherent s :=
  run.invariant .init fun _ _ _ coherent fired => coherent.step (step_sound fired)

/-- Only started calls exist. -/
theorem started_of_found {actions : List Action} (run : Run (Fires step) State.init actions s)
    (running : s.calls call = some { pda, pc }) : .start call pda ∈ actions := by
  induction run generalizing pc with
  | nil => cases running
  | snoc _ last ih =>
    cases (step_sound last).origin running with
    | same before => exact List.mem_append_left _ (ih before)
    | started _ starts => simp [starts]
    | moved before => exact List.mem_append_left _ (ih before)
    | woken before => exact List.mem_append_left _ (ih before)

/-- Only accounts some call was started for are cached. -/
theorem started_of_cached {actions : List Action} (run : Run (Fires step) State.init actions s)
    (found : s.db pda = some entry) : ∃ call, .start call pda ∈ actions := by
  induction run generalizing entry with
  | nil => cases found
  | snoc earlier last ih =>
    rcases (Coherent.reached earlier).entry_step (step_sound last) found with
      ⟨call, _, _, inserting, _⟩ | ⟨before, held, _⟩
    · exact ⟨call, List.mem_append_left _ (started_of_found earlier inserting)⟩
    · obtain ⟨call, started⟩ := ih held
      exact ⟨call, List.mem_append_left _ started⟩

/-- The action neither evicts nor clears the entry. -/
def Keeps (pda : Pubkey) : Action → Prop
  | .insert _ evicted => evicted ≠ some pda
  | .sweep key => key ≠ pda
  | _ => True

/-- An entry that is not evicted or cleared leaves the cache only as the
placeholder of a cancelled or unsubscribed fill. -/
theorem Step.removed_of_gone (step : Step s action t) (keeps : Keeps pda action)
    (held : s.db pda = some entry) (gone : t.db pda = none) :
    ∃ call pc fill, s.calls call = some { pda, pc } ∧
      (pc = .discarding fill ∨ pc = .dropping fill) ∧ Awaits fill entry := by
  generalize after : t.db pda = changed at gone
  cases after ▸ step.entryChange pda with
  | same => simp [held] at gone
  | evicted | swept => exact absurd rfl keeps
  | removed running removes found awaits =>
    cases held.symm.trans found
    exact ⟨_, _, _, running, removes, awaits⟩
  | remerged | merged => simp [mergeFetched_eq_none, held] at gone
  | placed | claimed | released | installed => cases gone

/-- An entry without pending fill stays in the cache without one. -/
theorem Coherent.unowned_step (coherent : Coherent s) (step : Step s action t)
    (keeps : Keeps pda action) (held : s.db pda = some entry) (unowned : entry.pendingFill = none) :
    ∃ after, t.db pda = some after ∧ after.pendingFill = none ∧ entry.slot ≤ after.slot := by
  cases found : t.db pda with
  | none =>
    obtain ⟨_, _, _, _, _, awaits⟩ := step.removed_of_gone keeps held found
    cases awaits.2.symm.trans unowned
  | some after =>
    refine ⟨after, rfl, ?_⟩
    rcases coherent.entry_step step found with ⟨_, _, _, _, vacant, _⟩ | ⟨before, held', renewal⟩
    · simp [held] at vacant
    · cases held.symm.trans held'
      cases renewal with
      | kept slot _ pending => exact ⟨by simpa [unowned] using pending, slot.le⟩
      | fetched newer unowned => exact ⟨unowned, newer.le⟩
      | streamed newer unowned => exact ⟨unowned, newer.le⟩

end MagicRouter.Delegations
