import MagicRouter.Cache.DelegationsInvariant

/-! The cached record follows the chain: whatever the order of fetch responses
and stream updates, a filled entry holds the on-chain record of its own slot and
never falls behind an update that was processed while it was there. -/

namespace MagicRouter.Delegations

open Library

/-- The on-chain delegation record of one account, by slot. -/
abbrev History := Nat → Option ParsedDelegationRecord

def History.ChangesAt (history : History) (slot : Nat) : Prop :=
  slot ≠ 0 ∧ history slot ≠ history (slot - 1)

/-- A history without changes in between has the same record at both ends. -/
theorem History.eq_of_unchanged {history : History} {first last : Nat} (ordered : first ≤ last)
    (unchanged : ∀ slot, first < slot → ¬ history.ChangesAt slot) : history last = history first := by
  induction last, ordered using Nat.le_induction with
  | base => rfl
  | succ last ordered ih =>
    rw [← ih]
    by_contra changed
    exact unchanged (last + 1) (Nat.lt_succ_of_le ordered) ⟨Nat.succ_ne_zero _, changed⟩

/-- The response is an error or carries the history at its own positive context slot. -/
def RpcResponse.Carries (history : History) : RpcResponse → Prop
  | .account slot data => 0 < slot ∧ data.bind ParsedDelegationRecord.fromBytes = history slot
  | .missing slot => 0 < slot ∧ history slot = none
  | .error => True

/-- Fetches and updates of the entry tell the history. -/
def TellsHistory (history : History) (pda : Pubkey) : Action → Prop
  | .fetched _ rpc => ∀ minContextSlot attempt, (rpc pda minContextSlot attempt).Carries history
  | .update message => ∀ slot record, message.content = some (pda, slot, record) →
      record = history slot
  | _ => True

/-- A filled entry, cached or just fetched, holds the history at its slot. -/
structure HoldsHistory (history : History) (pda : Pubkey) (s : State) : Prop where
  coherent : Coherent s
  cached : ∀ entry, s.db pda = some entry → entry.slot ≠ 0 → entry.record = history entry.slot
  fetched : ∀ call pc fetched, s.calls call = some { pda, pc } → pc.fetched = some fetched →
    fetched.slot ≠ 0 → fetched.record = history fetched.slot

variable {history : History} {pda : Pubkey} {s t : State} {action : Action} {actions : List Action}
variable {entry : DelegationEntry} {floor : Nat}

theorem fetch_carries {rpc : Rpc} {minContextSlot : Option Nat}
    (carries : ∀ attempt, (rpc pda minContextSlot attempt).Carries history)
    (succeeded : (fetch rpc pda minContextSlot).slot ≠ 0) :
    (fetch rpc pda minContextSlot).record = history (fetch rpc pda minContextSlot).slot := by
  suffices fetches : ∀ left attempt,
      (fetchFrom (rpc pda minContextSlot) left attempt).slot ≠ 0 →
        (fetchFrom (rpc pda minContextSlot) left attempt).record =
          history (fetchFrom (rpc pda minContextSlot) left attempt).slot from
    fetches _ _ succeeded
  intro left
  induction left with
  | zero => exact fun _ failed => absurd rfl failed
  | succ left ih =>
    intro attempt
    unfold fetchFrom
    have response := carries attempt
    cases answered : rpc pda minContextSlot attempt with
    | account slot data =>
      rw [answered] at response
      exact fun _ => response.2
    | missing slot =>
      rw [answered] at response
      exact fun _ => response.2.symm
    | error => exact ih _

namespace HoldsHistory

theorem init : HoldsHistory history pda State.init where
  coherent := .init
  cached _ found := by cases found
  fetched _ _ _ running := by cases running

theorem step (holds : HoldsHistory history pda s) (chain : TellsHistory history pda action)
    (step : Step s action t) : HoldsHistory history pda t where
  coherent := holds.coherent.step step
  cached := by
    intro entry found filled
    rcases holds.coherent.entry_step step found with
      ⟨_, _, _, _, _, _, _, rfl⟩ | ⟨before, held, renewal⟩
    · exact absurd rfl filled
    · cases renewal with
      | kept slot record =>
        rw [← slot, ← record]
        exact holds.cached before held (slot ▸ filled)
      | fetched _ _ running carries => exact holds.fetched _ _ _ running carries filled
      | streamed _ _ updates carried =>
        subst updates
        exact chain _ _ carried
  fetched := by
    intro call pc fetched found carries filled
    rcases step.fetched_before found carries with running | ⟨rpc, _, slot, rfl, _, _, rfl⟩
    · exact holds.fetched _ _ _ running carries filled
    · exact fetch_carries (chain _) filled

theorem reached (run : Run (Fires Delegations.step) State.init actions s)
    (chain : ∀ action ∈ actions, TellsHistory history pda action) : HoldsHistory history pda s :=
  run.invariant_of_allowed init
    (fun _ _ _ allowed holds fired => holds.step allowed (step_sound fired)) chain

end HoldsHistory

/-- The entry is there and at least as new as the given slot. -/
def AtLeast (pda : Pubkey) (floor : Nat) (s : State) : Prop :=
  ∃ entry, s.db pda = some entry ∧ floor ≤ entry.slot

/-- A filled entry stays and never gets older. -/
theorem AtLeast.step (present : AtLeast pda floor s) (positive : 0 < floor) (coherent : Coherent s)
    (keeps : Keeps pda action) (step : Step s action t) : AtLeast pda floor t := by
  obtain ⟨before, held, above⟩ := present
  have unowned : before.pendingFill = none := coherent.filled pda before held (by omega)
  obtain ⟨after, found, _, newer⟩ := coherent.unowned_step step keeps held unowned
  exact ⟨after, found, above.trans newer⟩

theorem AtLeast.run {actions' : List Action} (present : AtLeast pda floor s) (positive : 0 < floor)
    (reached : Run (Fires Delegations.step) State.init actions s)
    (rest : Run (Fires Delegations.step) s actions' t)
    (kept : ∀ action ∈ actions', Keeps pda action) : AtLeast pda floor t := by
  induction rest with
  | nil => exact present
  | snoc earlier last ih =>
    refine AtLeast.step (ih fun action member => kept action (by simp [member])) positive
      (.reached (reached.append earlier)) (kept _ (by simp)) (step_sound last)

/-- An update processed while the entry is there leaves it no older than itself. -/
theorem AtLeast.of_update {message : AccountUpdate} {slot : Nat}
    {record : Option ParsedDelegationRecord} (found : s.db pda = some entry)
    (carried : message.content = some (pda, slot, record)) (step : Step s (.update message) t) :
    AtLeast pda slot t := by
  cases step with
  | call _ edge => cases edge
  | install _ carried' found' newer =>
    cases carried.symm.trans carried'
    refine ⟨{ slot, record, pendingMinContextSlot := none, pendingFill := none }, ?_, Nat.le_refl _⟩
    simp [State.setEntry_db]
  | ignore _ _ stale => exact ⟨entry, found, stale _ _ _ carried _ found⟩
  | interrupt => cases carried

theorem update_le_entry {message : AccountUpdate} {before after : List Action} {middle : State}
    {slot : Nat} {record : Option ParsedDelegationRecord}
    (first : Run (Fires step) State.init before middle)
    (second : Run (Fires step) middle (.update message :: after) s)
    (kept : ∀ action ∈ after, Keeps pda action) (present : middle.db pda ≠ none)
    (carried : message.content = some (pda, slot, record)) (found : s.db pda = some entry) :
    slot ≤ entry.slot := by
  rcases Nat.eq_zero_or_pos slot with rfl | positive
  · exact Nat.zero_le _
  · obtain ⟨held, there⟩ := Option.ne_none_iff_exists'.mp present
    obtain ⟨next, fired, rest⟩ := second.of_cons
    have updated : AtLeast pda slot next := .of_update there carried (step_sound fired)
    have reached : Run (Fires step) State.init (before ++ [.update message]) next := .snoc first fired
    obtain ⟨entry', found', above⟩ := updated.run positive reached rest kept
    cases found.symm.trans found'
    exact above

/-- In a run that tells the history of the entry and keeps it, whatever the order and however
often updates are delivered: the filled entry holds the record of its slot, is no
older than any update processed while an entry was there, and once every change
above the slot the entry had at some moment has been delivered it holds the
newest on-chain record. -/
theorem entry_converges (run : Run (Fires step) State.init actions s)
    (chain : ∀ action ∈ actions, TellsHistory history pda action)
    (kept : ∀ action ∈ actions, Keeps pda action)
    (found : s.db pda = some entry) (filled : entry.slot ≠ 0) :
    entry.record = history entry.slot ∧
    (∀ before message after middle slot record, actions = before ++ .update message :: after →
      Run (Fires step) State.init before middle → Run (Fires step) middle (.update message :: after) s →
      middle.db pda ≠ none → message.content = some (pda, slot, record) → slot ≤ entry.slot) ∧
    (∀ before after middle earlier, actions = before ++ after →
      Run (Fires step) State.init before middle → Run (Fires step) middle after s →
      middle.db pda = some earlier → earlier.slot ≠ 0 →
      (∀ slot, earlier.slot < slot → history.ChangesAt slot →
        ∃ message record, .update message ∈ after ∧ message.content = some (pda, slot, record)) →
      ∀ slot, entry.slot ≤ slot → history slot = entry.record) := by
  have holds := HoldsHistory.reached run chain
  have current := holds.cached entry found filled
  refine ⟨current, ?_, ?_⟩
  · intro before message after middle slot record same first second present carried
    exact update_le_entry first second (fun action member => kept action (by simp [same, member]))
      present carried found
  · intro before after middle earlier same first second held filled' delivered slot above
    have positive : 0 < earlier.slot := Nat.pos_of_ne_zero filled'
    have stays : ∀ action ∈ after, Keeps pda action := fun action member =>
      kept action (by simp [same, member])
    have present : AtLeast pda earlier.slot middle := ⟨earlier, held, Nat.le_refl _⟩
    obtain ⟨entry', found', newer⟩ := present.run positive first second stays
    cases found.symm.trans found'
    rw [current]
    apply History.eq_of_unchanged above
    intro change beyond changes
    -- a change above the entry was delivered while the entry was there, so it is not above
    obtain ⟨message, record, member, carried⟩ :=
      delivered change (Nat.lt_of_le_of_lt newer beyond) changes
    obtain ⟨sooner, later, rfl⟩ := List.append_of_mem member
    obtain ⟨moment, reached, rest⟩ := second.split
    obtain ⟨still, there, _⟩ := present.run positive first reached fun action member =>
      stays action (by simp [member])
    have covered : change ≤ entry.slot := update_le_entry (first.append reached) rest
      (fun action member => stays action (by simp [member])) (by simp [there]) carried found
    omega

/-- Delegated until slot 15. -/
def undelegatedAtFifteen : History :=
  fun slot => if slot < 15 then ParsedDelegationRecord.fromBytes (List.replicate 96 5) else none

/-- A fetch at slot 12 and the undelegation at slot 15, delivered twice. -/
theorem entry_converges_undelegation :
    ∃ middle s earlier entry,
      Run (Fires step) State.init (fillByFetch 0 .default 10
        fun _ _ _ => .account 12 (some (List.replicate 96 5))) middle ∧
      Run (Fires step) middle
        [.update (.undelegated .default 15), .update (.undelegated .default 15)] s ∧
      middle.db .default = some earlier ∧ earlier.slot = 12 ∧ s.db .default = some entry ∧
      entry.slot = 15 ∧ ∀ slot, 15 ≤ slot → undelegatedAtFifteen slot = entry.record := by
  obtain ⟨middle, first, filled⟩ := exists_run_of_exec
    (show (exec step State.init (fillByFetch 0 .default 10
        fun _ _ _ => .account 12 (some (List.replicate 96 5)))).map
      (fun middle => (middle.db .default).any (·.slot = 12) &&
        ((exec step middle [.update (.undelegated .default 15),
          .update (.undelegated .default 15)]).bind (·.db .default)).any (·.slot = 15)) =
      some true by decide +kernel)
  simp only [Bool.and_eq_true, Option.any_eq_true, decide_eq_true_eq] at filled
  obtain ⟨⟨earlier, held, at12⟩, entry, executed, at15⟩ := filled
  obtain ⟨s, executed, found⟩ := Option.bind_eq_some_iff.mp executed
  have second := Run.of_exec executed
  refine ⟨middle, s, earlier, entry, first, second, held, at12, found, at15, ?_⟩
  have converges := entry_converges (first.append second)
    (show ∀ action ∈ _, TellsHistory undelegatedAtFifteen .default action by
      simp [fillByFetch, TellsHistory, RpcResponse.Carries, AccountUpdate.content,
        undelegatedAtFifteen])
    (by simp [fillByFetch, Keeps]) found (by omega)
  intro slot above
  refine converges.2.2 _ _ middle earlier rfl first second held (by omega) ?_ slot (by omega)
  intro change beyond changes
  have last : change = 15 := by
    by_contra other
    apply changes.2
    by_cases sooner : change < 15
    · simp [undelegatedAtFifteen, sooner, show change - 1 < 15 by omega]
    · simp [undelegatedAtFifteen, sooner, show ¬ change - 1 < 15 by omega]
  exact ⟨.undelegated .default 15, none, by simp, by simp [last, AccountUpdate.content]⟩

end MagicRouter.Delegations
