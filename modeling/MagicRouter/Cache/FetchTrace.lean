import MagicRouter.Cache.DelegationsInvariant

/-! Fetches that failed in all their attempts, followed through a run: from the
entry of slot 0 that such a fetch returns to the result of its fill. -/

namespace MagicRouter.Delegations

open Library

def RpcResponse.Positive : RpcResponse → Prop
  | .account slot _ | .missing slot => 0 < slot
  | .error => True

/-- RPC context slots are positive and subscriptions succeed. -/
def Responsive : Action → Prop
  | .fetched _ rpc => ∀ pda minContextSlot attempt, (rpc pda minContextSlot attempt).Positive
  | .refuse _ => False
  | _ => True

/-- In the course of the run, a fetch of the call failed in all its attempts. -/
def FetchFailed (actions : List Action) (call : CallId) (pda : Pubkey) : Prop :=
  ∃ before rpc after middle pc slot, actions = before ++ .fetched call rpc :: after ∧
    Run (Fires step) State.init before middle ∧ middle.calls call = some { pda, pc } ∧
    pc.fetching = some slot ∧
    ∀ attempt ≤ MAX_ACCOUNT_REFETCH_ATTEMPTS, rpc pda slot attempt = .error

/-- The call holds a fill whose placeholder is put and whose result is open. -/
def Pc.undecided : Pc → Option FillId
  | .evicting fill _ | .subscribing fill | .awaiting fill | .claiming fill _ | .filling fill _ _
  | .merging fill _ => some fill
  | _ => none

/-- The result the call has decided for its fill. -/
def Pc.decided : Pc → Option (FillId × Option ParsedDelegationRecord)
  | .releasing fill record | .resolving fill record => some (fill, record)
  | _ => none

/-- The call found the syncer terminated. -/
def Pc.refused : Pc → Bool
  | .dropping _ | .fetchingAlone _ => true
  | _ => false

variable {s t : State} {action : Action} {actions : List Action} {call : CallId} {pda : Pubkey}
variable {fill : FillId} {pc : Pc}

theorem FetchFailed.snoc (failed : FetchFailed actions call pda) :
    FetchFailed (actions ++ [action]) call pda := by
  obtain ⟨before, rpc, after, middle, pc, slot, rfl, rest⟩ := failed
  exact ⟨before, rpc, after ++ [action], middle, pc, slot, by simp, rest⟩

theorem fetch_failed {rpc : Rpc} {slot : Option Nat}
    (positive : ∀ attempt, (rpc pda slot attempt).Positive) (failed : (fetch rpc pda slot).slot = 0) :
    ∀ attempt ≤ MAX_ACCOUNT_REFETCH_ATTEMPTS, rpc pda slot attempt = .error := by
  suffices errors : ∀ left first, (fetchFrom (rpc pda slot) left first).slot = 0 →
      ∀ attempt, first ≤ attempt → attempt < first + left → rpc pda slot attempt = .error by
    intro attempt last
    exact errors _ 0 failed attempt (Nat.zero_le _) (by omega)
  intro left
  induction left with
  | zero => intros; omega
  | succ left ih =>
    intro first failed attempt above below
    unfold fetchFrom at failed
    have response := positive first
    cases answered : rpc pda slot first with
    | account slot data =>
      simp only [answered] at failed
      simp [answered, RpcResponse.Positive, failed] at response
    | missing slot =>
      simp only [answered] at failed
      simp [answered, RpcResponse.Positive, failed] at response
    | error =>
      simp only [answered] at failed
      rcases Nat.eq_or_lt_of_le above with rfl | later
      · exact answered
      · exact ih (first + 1) failed attempt later (by omega)

theorem Pc.owned_cases (owned : pc.owned = some fill) :
    pc = .inserting fill ∨ pc.undecided = some fill ∨ pc.refused = true ∨
      ∃ record, pc.decided = some (fill, record) := by
  cases pc with
  | inserting own =>
    cases owned
    exact .inl rfl
  | evicting | subscribing | awaiting | claiming | filling | merging => exact .inr (.inl owned)
  | dropping | fetchingAlone => exact .inr (.inr (.inl rfl))
  | releasing own record | resolving own record =>
    cases owned
    exact .inr (.inr (.inr ⟨record, rfl⟩))
  | lookup | waiting | discarding | refetching | remerging | returned | cancelled => cases owned

theorem Pc.owned_of_undecided (undecided : pc.undecided = some fill) : pc.owned = some fill := by
  cases pc <;> first | exact undecided | cases undecided

theorem Pc.owned_of_decided {record : Option ParsedDelegationRecord}
    (decided : pc.decided = some (fill, record)) : pc.owned = some fill := by
  cases pc with
  | releasing | resolving =>
    cases decided
    rfl
  | _ => cases decided

/-- What a run says about fetches that failed: an entry fetched at slot 0 comes
from one, and so does the result of a fill that is still pending. -/
structure Traced (actions : List Action) (s : State) : Prop where
  served : ∀ call pda pc, s.calls call = some { pda, pc } → pc.refused = false
  failed : ∀ call pda pc fetched, s.calls call = some { pda, pc } → pc.fetched = some fetched →
    fetched.slot = 0 → FetchFailed actions call pda
  released : ∀ call pda fill record entry, s.calls call = some { pda, pc := .releasing fill record } →
    s.db pda = some entry → Awaits fill entry → record = none ∧ FetchFailed actions call pda

namespace Traced

variable {record : Option ParsedDelegationRecord} {entry : DelegationEntry}

theorem init : Traced [] State.init where
  served _ _ _ running := by cases running
  failed _ _ _ _ running := by cases running
  released _ _ _ _ _ running := by cases running

theorem served_step (traced : Traced actions s) (responsive : Responsive action)
    (step : Step s action t) (found : t.calls call = some { pda, pc }) : pc.refused = false := by
  cases step.origin found with
  | same running => exact traced.served _ _ _ running
  | started => rfl
  | woken => rfl
  | moved running edge =>
    cases edge with
    | refuse => exact responsive.elim
    | withdraw => cases traced.served _ _ _ running
    | _ => rfl

theorem failed_step {fetched : DelegationEntry} (traced : Traced actions s)
    (run : Run (Fires Delegations.step) State.init actions s) (responsive : Responsive action)
    (step : Step s action t) (found : t.calls call = some { pda, pc })
    (carries : pc.fetched = some fetched) (empty : fetched.slot = 0) :
    FetchFailed (actions ++ [action]) call pda := by
  rcases step.fetched_before found carries with running | ⟨rpc, pc', slot, rfl, running, fetching, rfl⟩
  · exact (traced.failed _ _ _ _ running carries empty).snoc
  · exact ⟨actions, rpc, [], s, pc', slot, rfl, run, running, fetching,
      fetch_failed (responsive _ _) empty⟩

/-- A placeholder whose call has gone past inserting it was there before the step. -/
theorem awaits_before (coherent : Coherent s) (step : Step s action t)
    (running : s.calls call = some { pda, pc }) (owned : pc.owned = some fill)
    (past : pc ≠ .inserting fill) (found : t.db pda = some entry) (awaits : Awaits fill entry) :
    ∃ before, s.db pda = some before ∧ Awaits fill before := by
  rcases coherent.entry_step step found with
    ⟨other, own, _, theirs, _, _, _, rfl⟩ | ⟨before, held, renewal⟩
  · cases awaits.2
    cases coherent.owner_unique running owned theirs rfl
    cases running.symm.trans theirs
    exact absurd rfl past
  · have empty := awaits.1
    refine ⟨before, held, ?_, renewal.pending awaits.2⟩
    cases renewal with
    | kept slot => exact slot.trans empty
    | fetched newer => omega
    | streamed newer => omega

theorem released_step (traced : Traced actions s) (coherent : Coherent s) (step : Step s action t)
    (found : t.calls call = some { pda, pc := .releasing fill record })
    (held : t.db pda = some entry) (awaits : Awaits fill entry) :
    record = none ∧ FetchFailed (actions ++ [action]) call pda := by
  cases step.origin found with
  | same running =>
    obtain ⟨before, held', awaits'⟩ := awaits_before coherent step running rfl (by simp) held awaits
    obtain ⟨empty, failed⟩ := traced.released _ _ _ _ _ running held' awaits'
    exact ⟨empty, failed.snoc⟩
  | moved running edge reached =>
    subst reached
    cases edge with
    | installed present filled =>
      cases present.symm.trans held
      exact absurd awaits.1 filled
    | @merge _ fetched =>
      rw [State.goto_db, State.setEntry_db, if_pos rfl] at held
      rcases mergeFetched_cases (s.db pda) fetched (some fill) with
        ⟨_, same⟩ | ⟨current, present, outcome⟩
      · simp [same] at held
      · rcases outcome with ⟨pending, foreign, different, same⟩ | ⟨_, ⟨newer, same⟩ | ⟨older, same⟩⟩
        · cases (show current = entry by simpa [same] using held)
          exact absurd (foreign.symm.trans awaits.2) different
        · cases (show fetched = entry by simpa [same] using held)
          cases awaits.2.symm.trans (coherent.fetched _ _ _ _ running rfl)
        · cases (show current = entry by simpa [same] using held)
          have empty : fetched.slot = 0 := Nat.le_zero.mp (awaits.1 ▸ older)
          rw [same]
          exact ⟨coherent.empty _ _ present awaits.1, (traced.failed _ _ _ _ running rfl empty).snoc⟩

theorem step (traced : Traced actions s) (run : Run (Fires Delegations.step) State.init actions s)
    (responsive : Responsive action) (fired : Delegations.step s action = some t) :
    Traced (actions ++ [action]) t where
  served _ _ _ found := traced.served_step responsive (step_sound fired) found
  failed _ _ _ _ found carries empty :=
    traced.failed_step run responsive (step_sound fired) found carries empty
  released _ _ _ _ _ found held awaits :=
    traced.released_step (.reached run) (step_sound fired) found held awaits

theorem reached (run : Run (Fires Delegations.step) State.init actions s)
    (responsive : ∀ action ∈ actions, Responsive action) : Traced actions s := by
  induction run with
  | nil => exact init
  | snoc earlier last ih =>
    exact step (ih fun action member => responsive action (by simp [member])) earlier
      (responsive _ (by simp)) last

end Traced

end MagicRouter.Delegations
