import MagicRouter.Cache.DelegationsInvariant

/-! One cache entry under every interleaving: the slot-0 convention its readers
rely on, and which steps may touch the placeholder of a pending fill. -/

namespace MagicRouter.Delegations

open Library

/-- Slot 0 marks an entry that holds nothing yet; only such an entry carries the
data of a fill in progress. -/
structure DelegationEntry.WellFormed (entry : DelegationEntry) : Prop where
  empty : entry.slot = 0 → entry.record = none
  filled : entry.slot ≠ 0 → entry.pendingFill = none ∧ entry.pendingMinContextSlot = none

/-- The call that takes an action; the syncer and the updater are no calls. -/
def Action.caller : Action → Option CallId
  | .start call _ | .read call | .join call | .discard call | .fetched call _ | .merge call
  | .insert call _ | .unsubscribe call | .subscribe call | .claim call | .arm call | .peek call
  | .wake call | .release call | .resolve call | .drop call | .cancel call | .refuse call => some call
  | .serve _ | .update _ | .notify | .sweep _ | .swept => none

/-- The fill a call takes part in: the one it owns, or the one it waits on and
cleans up after. -/
def Pc.fill : Pc → Option FillId
  | .waiting fill | .discarding fill => some fill
  | pc => pc.owned

/-- What may touch the placeholder of a fill. -/
inductive Touches (s : State) (pda : Pubkey) (fill : FillId) : Action → Prop where
  | streamed (carried : message.content = some (pda, slot, record)) :
      Touches s pda fill (.update message)
  | evicted (running : s.calls call = some { pda := own, pc }) (other : own ≠ pda) :
      Touches s pda fill (.insert call (some pda))
  | swept : Touches s pda fill (.sweep pda)
  | owner (acts : action.caller = some call) (running : s.calls call = some { pda, pc })
      (owned : pc.owned = some fill) : Touches s pda fill action
  | waiter (acts : action.caller = some call)
      (running : s.calls call = some { pda, pc := .discarding fill }) : Touches s pda fill action

variable {s t : State} {action : Action} {call owner : CallId} {pda own : Pubkey}
variable {pc : Pc} {fill : FillId} {entry before after fetched : DelegationEntry}
variable {actions : List Action}

/-- A fetch all of whose attempts fail gives an entry of slot 0. -/
theorem fetch_slot_of_failed {rpc : Rpc} {slot : Option Nat}
    (failed : ∀ attempt ≤ MAX_ACCOUNT_REFETCH_ATTEMPTS, rpc pda slot attempt = .error) :
    (fetch rpc pda slot).slot = 0 := by
  have fetches : ∀ left attempt, left + attempt = MAX_ACCOUNT_REFETCH_ATTEMPTS + 1 →
      (fetchFrom (rpc pda slot) left attempt).slot = 0 := by
    intro left
    induction left with
    | zero => exact fun _ _ => rfl
    | succ left ih =>
      intro attempt total
      unfold fetchFrom
      rw [failed attempt (by omega)]
      exact ih _ (by omega)
  exact fetches _ _ rfl

/-- Context slots are stored in placeholders only, and a fetch carries none. -/
structure ContextSlots (s : State) : Prop where
  cached : ∀ pda entry, s.db pda = some entry → entry.slot ≠ 0 → entry.pendingMinContextSlot = none
  fetched : ∀ call pda pc fetched, s.calls call = some { pda, pc } → pc.fetched = some fetched →
    fetched.pendingMinContextSlot = none

namespace ContextSlots

theorem init : ContextSlots State.init where
  cached _ _ found := by cases found
  fetched _ _ _ _ running := by cases running

variable (slots : ContextSlots s)
include slots

/-- What a merge leaves behind is the entry that was there or the fetch. -/
theorem merged {own : Option FillId} (running : s.calls call = some { pda, pc })
    (carries : pc.fetched = some fetched)
    (merged : (mergeFetched (s.db pda) fetched own).1 = some after) (filled : after.slot ≠ 0) :
    after.pendingMinContextSlot = none := by
  cases found : s.db pda with
  | none =>
    rw [found] at merged
    cases merged
  | some current =>
    obtain ⟨kept, same, outcome⟩ := mergeFetched_some current fetched own
    cases (found ▸ merged).symm.trans same
    rcases outcome with rfl | ⟨rfl, _⟩
    · exact slots.cached _ _ found filled
    · exact slots.fetched _ _ _ _ running carries

theorem cached_step (step : Step s action t) (found : t.db pda = some entry)
    (filled : entry.slot ≠ 0) : entry.pendingMinContextSlot = none := by
  generalize reached : t.db pda = changed at found
  cases reached ▸ step.entryChange pda with
  | same => exact slots.cached _ _ found filled
  | placed =>
    cases found
    exact absurd rfl filled
  | evicted | removed | swept => cases found
  | claimed _ _ awaits =>
    cases found
    exact absurd awaits.1 filled
  | remerged running => exact slots.merged running rfl found filled
  | merged running => exact slots.merged running rfl found filled
  | released _ held =>
    cases found
    have kept := slots.cached _ _ held
    exact kept filled
  | installed =>
    cases found
    rfl

theorem fetched_step (step : Step s action t) (found : t.calls call = some { pda, pc })
    (carries : pc.fetched = some fetched) : fetched.pendingMinContextSlot = none := by
  rcases step.fetched_before found carries with running | ⟨rpc, _, slot, _, _, _, rfl⟩
  · exact slots.fetched _ _ _ _ running carries
  · exact (fetch_settled rpc pda slot).2

theorem step (step : Step s action t) : ContextSlots t where
  cached _ _ found filled := slots.cached_step step found filled
  fetched _ _ _ _ found carries := slots.fetched_step step found carries

end ContextSlots

theorem ContextSlots.reached (run : Run (Fires Delegations.step) State.init actions s) :
    ContextSlots s :=
  run.invariant .init fun _ _ _ slots fired => slots.step (step_sound fired)

theorem wellFormed_reached (run : Run (Fires step) State.init actions s)
    (found : s.db pda = some entry) : entry.WellFormed := by
  have coherent := Coherent.reached run
  have slots := ContextSlots.reached run
  constructor
  · exact coherent.empty _ _ found
  · intro filled
    exact ⟨coherent.filled _ _ found filled, slots.cached _ _ found filled⟩

/-- An entry that stays in the cache keeps its slot and record or moves to a
later slot. -/
theorem Coherent.slot_step (coherent : Coherent s) (step : Step s action t)
    (held : s.db pda = some before) (found : t.db pda = some after) :
    before.slot ≤ after.slot ∧ (before.record ≠ after.record → before.slot < after.slot) := by
  rcases coherent.entry_step step found with ⟨_, _, _, _, vacant, _⟩ | ⟨earlier, held', renewal⟩
  · simp [held] at vacant
  · cases held.symm.trans held'
    cases renewal with
    | kept slot record => exact ⟨slot.le, fun changed => absurd record changed⟩
    | fetched newer => exact ⟨newer.le, fun _ => newer⟩
    | streamed newer => exact ⟨newer.le, fun _ => newer⟩

/-- Merging a fetch of slot 0 leaves the entry as it is. -/
theorem mergeFetched_failed (entry : Option DelegationEntry) (own : Option FillId)
    (failed : fetched.slot = 0) : (mergeFetched entry fetched own).1 = entry := by
  cases entry with
  | none => rfl
  | some current =>
    obtain ⟨kept, same, outcome⟩ := mergeFetched_some current fetched own
    rcases outcome with rfl | ⟨_, newer⟩
    · exact same
    · omega

/-- A merge of a failed fetch changes no entry. -/
theorem merge_failed (fired : step s (.merge call) = some t)
    (running : s.calls call = some { pda, pc }) (carries : pc.fetched = some fetched)
    (failed : fetched.slot = 0) : t.db = s.db := by
  cases pc with
  | remerging own =>
    cases carries
    simp only [step, running] at fired
    cases fired
    simp [State.setEntry, mergeFetched_failed _ _ failed]
  | merging fill own =>
    cases carries
    simp only [step, running] at fired
    cases fired
    simp [State.setEntry, mergeFetched_failed _ _ failed]
  | _ => cases carries

/-- The entry invariant of every reachable state and every step from it. -/
theorem entries_keep_slot_convention (run : Run (Fires step) State.init actions s) :
    (∀ pda entry, s.db pda = some entry → entry.WellFormed) ∧
    (∀ action t, step s action = some t →
      ∀ pda before after, s.db pda = some before → t.db pda = some after →
        before.slot ≤ after.slot ∧ (before.record ≠ after.record → before.slot < after.slot)) ∧
    (∀ rpc pda slot, (∀ attempt ≤ MAX_ACCOUNT_REFETCH_ATTEMPTS, rpc pda slot attempt = .error) →
      (fetch rpc pda slot).slot = 0) ∧
    (∀ call t, step s (.merge call) = some t →
      ∀ pda pc fetched, s.calls call = some { pda, pc } → pc.fetched = some fetched →
        fetched.slot = 0 → t.db = s.db) := by
  have coherent := Coherent.reached run
  refine ⟨?_, ?_, ?_, ?_⟩
  · intro pda entry found
    exact wellFormed_reached run found
  · intro action t fired pda before after held found
    exact coherent.slot_step (step_sound fired) held found
  · intro rpc pda slot failed
    exact fetch_slot_of_failed failed
  · intro call t fired pda pc fetched running carries failed
    exact merge_failed fired running carries failed

/-- A miss whose fetch fails every attempt, up to the merge. -/
def fillByFailedFetch : List Action :=
  [.start 0 .default, .read 0, .insert 0 none, .subscribe 0, .serve 10, .claim 0,
    .fetched 0 fun _ _ _ => .error]

theorem entries_keep_slot_convention_failed :
    ∃ s t entry, Run (Fires step) State.init fillByFailedFetch s ∧
      step s (.merge 0) = some t ∧ s.db .default = some entry ∧ entry.WellFormed ∧
      entry.slot = 0 ∧ t.db = s.db := by
  let failed : DelegationEntry :=
    { slot := 0, record := none, pendingMinContextSlot := none, pendingFill := none }
  obtain ⟨s, run, checked⟩ := exists_run_of_exec
    (show (exec step State.init fillByFailedFetch).map (fun s =>
        (s.db .default).any (·.slot = 0) && (step s (.merge 0)).isSome &&
          s.calls 0 == some { pda := .default, pc := .merging 0 failed }) = some true by
      decide +kernel)
  simp only [Bool.and_eq_true, Option.any_eq_true, decide_eq_true_eq, beq_iff_eq] at checked
  obtain ⟨⟨⟨entry, found, empty⟩, enabled⟩, merging⟩ := checked
  obtain ⟨t, fired⟩ := Option.isSome_iff_exists.mp enabled
  obtain ⟨shaped, _, _, unchanged⟩ := entries_keep_slot_convention run
  exact ⟨s, t, entry, run, fired, found, shaped _ _ found, empty,
    unchanged 0 t fired _ _ failed merging rfl rfl⟩

theorem Pc.fill_of_owned (owned : pc.owned = some fill) : pc.fill = some fill := by
  cases pc with
  | waiting | discarding => cases owned
  | _ => exact owned

/-- A merge on behalf of another fill, or of none, leaves a placeholder alone. -/
theorem mergeFetched_foreign {own : Option FillId} (pending : entry.pendingFill = some fill)
    (foreign : own ≠ some fill) : (mergeFetched (some entry) fetched own).1 = some entry := by
  unfold mergeFetched
  have blocked : entry.pendingFill.any (fun waiting => some waiting ≠ own) = true := by
    simp [pending, foreign.symm]
  exact congrArg Prod.fst (if_pos blocked)

/-- Every step that changes the placeholder of a fill is one of those that may. -/
theorem Step.touches (step : Step s action t) (found : s.db pda = some entry)
    (pending : entry.pendingFill = some fill) (changed : t.db pda ≠ some entry) :
    Touches s pda fill action := by
  have elsewhere {key : Pubkey} {entry' : Option DelegationEntry}
      (changed : (s.setEntry key entry').db pda ≠ some entry) : key = pda := by
    by_contra different
    exact changed (by rw [State.setEntry_db, if_neg (Ne.symm different), found])
  cases step with
  | start | serveUnsubscribe | serveCancelled | ignore | interrupt | notify | swept =>
    exact absurd found changed
  | install _ carried =>
    cases elsewhere changed
    exact .streamed carried
  | sweep =>
    cases elsewhere changed
    exact .swept
  | @call call own _ _ _ _ running edge =>
    cases edge with
    | hit | wait | refetch | miss | joined | orphaned | skip | refetched | occupied | unsubscribe
    | subscribe | served | refuse | lost | fetchedAlone | displaced | arm | installed | park | wake
    | fetched | released | resolve | cancelOwner | cancel => exact absurd found changed
    | insert vacant =>
      cases elsewhere changed
      simp [found] at vacant
    | @evict victim _ vacant other =>
      by_cases mine : pda = own
      · subst mine
        simp [found] at vacant
      · have victimised : victim = pda := by
          by_contra different
          apply changed
          rw [State.goto_db, State.setEntry_db, if_neg mine, State.setEntry_db,
            if_neg (Ne.symm different), found]
        subst victimised
        exact .evicted running (Ne.symm mine)
    | discard held awaits =>
      cases elsewhere changed
      cases found.symm.trans held
      cases pending.symm.trans awaits.2
      exact .waiter rfl running
    | withdraw held awaits | claim held awaits =>
      cases elsewhere changed
      cases found.symm.trans held
      cases pending.symm.trans awaits.2
      exact .owner rfl running rfl
    | release held released =>
      cases elsewhere changed
      cases found.symm.trans held
      cases pending.symm.trans released
      exact .owner rfl running rfl
    | remerge =>
      cases elsewhere changed
      refine absurd ?_ changed
      rw [State.goto_db, State.setEntry_db, if_pos rfl, found]
      exact mergeFetched_foreign pending (by simp)
    | @merge other =>
      cases elsewhere changed
      by_cases same : other = fill
      · subst same
        exact .owner rfl running rfl
      · refine absurd ?_ changed
        rw [State.goto_db, State.setEntry_db, if_pos rfl, found]
        exact mergeFetched_foreign pending (by simpa using same)

/-- A stream update leaves every cached entry in the cache. -/
theorem Step.update_keeps {message : AccountUpdate} (step : Step s (.update message) t)
    (found : s.db pda = some entry) : t.db pda ≠ none := by
  cases step with
  | @install key =>
    by_cases same : pda = key
    · simp [State.setEntry, same]
    · simp [State.setEntry, same, found]
  | ignore | interrupt => simp [found]
  | call _ edge => cases edge

/-- No step of a call touches the placeholder of a fill it does not take part in:
a call on another account can evict it, and nothing else can. While the sender of
the fill is held, only its owner takes the placeholder out. -/
theorem fill_ownership_respected (run : Run (Fires step) State.init actions s)
    (fired : step s action = some t) (found : s.db pda = some entry)
    (pending : entry.pendingFill = some fill) :
    (∀ call own pc, action.caller = some call → s.calls call = some { pda := own, pc } →
      pc.fill ≠ some fill →
        t.db pda = some entry ∨ own ≠ pda ∧ action = .insert call (some pda)) ∧
    (t.db pda ≠ some entry → Touches s pda fill action) ∧
    (∀ owner, s.fills fill = some (.held owner) → t.db pda = none →
      action.caller = some owner ∨ action = .sweep pda ∨
        ∃ call own pc, s.calls call = some { pda := own, pc } ∧ own ≠ pda ∧
          action = .insert call (some pda)) := by
  have coherent := Coherent.reached run
  have taken := step_sound fired
  refine ⟨?_, taken.touches found pending, ?_⟩
  · intro call own pc acts running apart
    by_cases kept : t.db pda = some entry
    · exact .inl kept
    · right
      cases taken.touches found pending kept with
      | streamed | swept => cases acts
      | evicted theirs other =>
        cases acts
        cases running.symm.trans theirs
        exact ⟨other, rfl⟩
      | owner acts' theirs owned =>
        cases acts.symm.trans acts'
        cases running.symm.trans theirs
        exact absurd (Pc.fill_of_owned owned) apart
      | waiter acts' theirs =>
        cases acts.symm.trans acts'
        cases running.symm.trans theirs
        exact absurd rfl apart
  · intro owner held gone
    have changed : t.db pda ≠ some entry := by simp [gone]
    cases taken.touches found pending changed with
    | streamed => exact absurd gone (taken.update_keeps found)
    | evicted theirs other => exact .inr (.inr ⟨_, _, _, theirs, other, rfl⟩)
    | swept => exact .inr (.inl rfl)
    | owner acts theirs owned =>
      cases held.symm.trans (coherent.owners _ _ _ _ theirs owned)
      exact .inl acts
    | waiter _ theirs => cases held.symm.trans (coherent.orphaned _ _ _ theirs)

/-- Call 0 puts a placeholder that is cleared while it fetches; call 1 puts its own
for the same account before call 0 merges. -/
def lateMerge : List Action :=
  [.start 0 .default, .read 0, .insert 0 none, .subscribe 0, .serve 10, .claim 0,
    .fetched 0 fun _ _ _ => .missing 12, .update .syncInterrupted, .sweep .default, .swept,
    .start 1 .default, .read 1, .insert 1 none]

theorem fill_ownership_respected_late :
    ∃ s t entry, Run (Fires step) State.init lateMerge s ∧ step s (.merge 0) = some t ∧
      s.db .default = some entry ∧ entry.pendingFill = some 1 ∧ t.db .default = some entry := by
  obtain ⟨s, run, checked⟩ := exists_run_of_exec
    (show (exec step State.init lateMerge).map (fun s =>
        (s.db .default).any (·.pendingFill = some 1) && (step s (.merge 0)).isSome &&
          s.calls 0 == some { pda := .default, pc := .merging 0 {
            slot := 12, record := none, pendingMinContextSlot := none, pendingFill := none } }) =
      some true by decide +kernel)
  simp only [Bool.and_eq_true, Option.any_eq_true, decide_eq_true_eq, beq_iff_eq] at checked
  obtain ⟨⟨⟨entry, found, pending⟩, enabled⟩, merging⟩ := checked
  obtain ⟨t, fired⟩ := Option.isSome_iff_exists.mp enabled
  obtain ⟨spared, _⟩ := fill_ownership_respected run fired found pending
  rcases spared 0 _ _ rfl merging (by decide) with kept | ⟨_, inserts⟩
  · exact ⟨s, t, entry, run, fired, found, pending, kept⟩
  · cases inserts

end MagicRouter.Delegations
