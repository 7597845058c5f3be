import MagicRouter.Cache.DelegationsStep
import MagicRouter.Library.Run
import MagicRouter.Library.Stamped

/-! What a sequence of stream updates leaves in a cache entry that nobody else writes:
an update is taken in only if its slot is above the entry's. -/

namespace MagicRouter.Delegations

open Library

/-- The slot and the record of an update, if it is about the given entry. -/
def AccountUpdate.news (pda : Pubkey) (message : AccountUpdate) :
    Option (Nat × Option ParsedDelegationRecord) :=
  message.content.bind fun content => if content.1 = pda then some content.2 else none

def Action.news (pda : Pubkey) : Action → Option (Nat × Option ParsedDelegationRecord)
  | .update message => message.news pda
  | _ => none

/-- The updates of an entry that the updater processes in a run, in order. -/
def stream (pda : Pubkey) (actions : List Action) : List (Nat × Option ParsedDelegationRecord) :=
  actions.filterMap (Action.news pda)

/-- What updates compare and replace. -/
def DelegationEntry.held (entry : DelegationEntry) : Nat × Option ParsedDelegationRecord :=
  (entry.slot, entry.record)

/-- Nothing but the stream writes the entry: other steps leave its slot and record. -/
def OnlyStream (pda : Pubkey) (s : State) (action : Action) : Prop :=
  action.news pda = none → ∀ t, step s action = some t →
    (t.db pda).map DelegationEntry.held = (s.db pda).map DelegationEntry.held

variable {pda : Pubkey} {s t : State} {action : Action} {actions : List Action}
variable {entry : DelegationEntry} {message : AccountUpdate}

theorem news_eq_some_iff {news : Nat × Option ParsedDelegationRecord} :
    message.news pda = some news ↔ message.content = some (pda, news) := by
  unfold AccountUpdate.news
  cases message.content with
  | none => simp
  | some content =>
    obtain ⟨key, other⟩ := content
    by_cases same : key = pda <;> simp [same]

/-- One update of the entry. -/
theorem held_of_update {news : Nat × Option ParsedDelegationRecord} (found : s.db pda = some entry)
    (carried : message.news pda = some news) (step : Step s (.update message) t) :
    ∃ after, t.db pda = some after ∧ after.held = Stamped.heed entry.held news := by
  have content := news_eq_some_iff.mp carried
  cases step with
  | call _ edge => cases edge
  | install _ carried' found' newer =>
    cases content.symm.trans carried'
    cases found.symm.trans found'
    exact ⟨_, by rw [State.setEntry_db, if_pos rfl], (if_pos newer).symm⟩
  | ignore _ _ stale =>
    have older := stale pda news.1 news.2 content entry found
    exact ⟨entry, found, (if_neg (Nat.not_lt_of_le older)).symm⟩
  | interrupt => cases content

theorem held_of_step (alone : OnlyStream pda s action) (found : s.db pda = some entry)
    (fired : step s action = some t) :
    ∃ after, t.db pda = some after ∧
      after.held = Stamped.heedAll entry.held (stream pda [action]) := by
  cases carried : action.news pda with
  | none =>
    have same := alone carried t fired
    rw [found, Option.map_some, Option.map_eq_some_iff] at same
    obtain ⟨after, present, same⟩ := same
    exact ⟨after, present, by simp [same, stream, carried, Stamped.heedAll]⟩
  | some news =>
    cases action with
    | update message =>
      obtain ⟨after, present, heeded⟩ := held_of_update found carried (step_sound fired)
      exact ⟨after, present, by simp [heeded, stream, carried, Stamped.heedAll]⟩
    | _ => cases carried

/-- What a run leaves in an entry that only the stream writes. -/
theorem held_of_run (run : Run (Guarded (OnlyStream pda) (Fires step)) s actions t)
    (found : s.db pda = some entry) :
    ∃ after, t.db pda = some after ∧ after.held = Stamped.heedAll entry.held (stream pda actions) := by
  induction run with
  | nil => exact ⟨entry, found, rfl⟩
  | snoc earlier last ih =>
    obtain ⟨middle, present, heeded⟩ := ih
    obtain ⟨after, present', heeded'⟩ := held_of_step last.1 present last.2
    refine ⟨after, present', ?_⟩
    rw [heeded', heeded]
    simp [stream, Stamped.heedAll, List.filterMap_append]

/-- After an update of an entry the updater is idle at once or by notifying a fill. -/
theorem exists_idle (carried : (message.news pda).isSome) (fired : Step s (.update message) t) :
    ∃ actions u, Run (Guarded (OnlyStream pda) (Fires step)) t actions u ∧ u.updater = .idle ∧
      u.db = t.db ∧ stream pda actions = [] := by
  have idle_or : t.updater = .idle ∨ ∃ fill, t.updater = .notifying fill := by
    cases fired with
    | call _ edge => cases edge
    | install _ _ _ _ =>
      dsimp only
      split
      · exact .inl rfl
      · exact .inr ⟨_, rfl⟩
    | ignore idle _ _ => exact .inl idle
    | interrupt => cases carried
  rcases idle_or with idle | ⟨fill, taken⟩
  · exact ⟨[], t, .nil, idle, rfl, rfl⟩
  · have woken : step t .notify = some { t with
        calls := fun call => (t.calls call).map (Call.wake fill), updater := .idle } := by
      simp [step, taken]
    refine ⟨[.notify], _, .single ⟨?_, woken⟩, rfl, rfl, rfl⟩
    intro _ u fired
    cases woken.symm.trans fired
    rfl

/-- An idle updater can process any messages about the entry while everyone else
waits. -/
theorem exists_processing (messages : List AccountUpdate)
    (about : ∀ message ∈ messages, (message.news pda).isSome) (idle : s.updater = .idle)
    (found : s.db pda = some entry) :
    ∃ actions t, Run (Guarded (OnlyStream pda) (Fires step)) s actions t ∧
      stream pda actions = messages.filterMap (AccountUpdate.news pda) := by
  induction messages generalizing s entry with
  | nil => exact ⟨[], s, .nil, rfl⟩
  | cons message rest ih =>
    have here : (message.news pda).isSome := about message (by simp)
    have others : ∀ message ∈ rest, (message.news pda).isSome := by
      intro other member
      exact about other (List.mem_cons_of_mem _ member)
    obtain ⟨news, carried⟩ := Option.isSome_iff_exists.mp here
    have fired : step s (.update message) = some (s.handleUpdate message) := by simp [step, idle]
    have alone : OnlyStream pda s (.update message) := by
      intro none
      cases carried.symm.trans none
    obtain ⟨after, present, _⟩ := held_of_update found carried (step_sound fired)
    obtain ⟨woken, u, second, idle, same, silent⟩ := exists_idle here (step_sound fired)
    obtain ⟨later, t, third, heard⟩ := ih others idle (same ▸ present)
    refine ⟨[.update message] ++ (woken ++ later), t,
      (Run.single ⟨alone, fired⟩).append (second.append third), ?_⟩
    rw [List.filterMap_cons, carried, ← heard]
    simp only [stream] at silent ⊢
    simp [List.filterMap_append, silent, Action.news, carried]

section Ordered

variable {messages : List AccountUpdate} {last : Nat × Option ParsedDelegationRecord}
variable (found : s.db pda = some entry)
variable (ordered : (messages.filterMap (AccountUpdate.news pda)).Pairwise
  fun earlier later => earlier.1 ≤ later.1)
variable (newer : ∀ first ∈ (messages.filterMap (AccountUpdate.news pda)).head?, entry.slot < first.1)
variable (final : (messages.filterMap (AccountUpdate.news pda)).getLast? = some last)
include found ordered newer final

theorem first_of_processed (run : Run (Guarded (OnlyStream pda) (Fires step)) s actions t)
    (processed : stream pda actions = messages.filterMap (AccountUpdate.news pda)) :
    ∃ after first, t.db pda = some after ∧
      (messages.filterMap (AccountUpdate.news pda)).find? (fun update => update.1 = last.1) =
        some first ∧ after.record = first.2 := by
  obtain ⟨after, present, heeded⟩ := held_of_run run found
  have newer : ∀ first ∈ (messages.filterMap (AccountUpdate.news pda)).head?,
      entry.held.1 < first.1 := newer
  refine ⟨after, _, present, Stamped.find?_eq_heedAll ordered newer final, ?_⟩
  exact congrArg Prod.snd (heeded.trans (by rw [processed]))

/-- Where only the stream writes an entry and its updates come in order, the first of the
updates with the last slot is the one that stays. -/
theorem first_of_last_slot_stays (about : ∀ message ∈ messages, (message.news pda).isSome) :
    (s.updater = .idle → ∃ actions t, Run (Guarded (OnlyStream pda) (Fires step)) s actions t ∧
      stream pda actions = messages.filterMap (AccountUpdate.news pda)) ∧
    ∀ actions t, Run (Guarded (OnlyStream pda) (Fires step)) s actions t →
      stream pda actions = messages.filterMap (AccountUpdate.news pda) →
      ∃ after first, t.db pda = some after ∧
        (messages.filterMap (AccountUpdate.news pda)).find? (fun update => update.1 = last.1) =
          some first ∧ after.record = first.2 := by
  constructor
  · intro idle
    exact exists_processing messages about idle found
  · intro actions t run processed
    exact first_of_processed found ordered newer final run processed

end Ordered

/-- An account that was delegated is undelegated and delegated again in one slot. -/
def redelegation : List AccountUpdate :=
  [.undelegated .default 15, .delegated .default (List.replicate 96 5) 15]

theorem news_redelegation : redelegation.filterMap (AccountUpdate.news .default) =
    [(15, none), (15, ParsedDelegationRecord.fromBytes (List.replicate 96 5))] := rfl

theorem about_redelegation : ∀ message ∈ redelegation, (message.news .default).isSome := by
  simp [redelegation, AccountUpdate.news, AccountUpdate.content]

/-- The cache after the account was fetched at slot 12. -/
theorem exists_delegated : ∃ s entry,
    Run (Fires step) State.init (fillByFetch 0 .default 10
      fun _ _ _ => .account 12 (some (List.replicate 96 5))) s ∧
    s.db .default = some entry ∧ entry.slot = 12 ∧ s.updater = .idle := by
  obtain ⟨s, run, filled⟩ := exists_run_of_exec
    (show (exec step State.init (fillByFetch 0 .default 10
        fun _ _ _ => .account 12 (some (List.replicate 96 5)))).map
      (fun s => (s.db .default).any (·.slot = 12) && decide (s.updater = .idle)) = some true by
      decide +kernel)
  simp only [Bool.and_eq_true, Option.any_eq_true, decide_eq_true_eq] at filled
  obtain ⟨⟨entry, found, at12⟩, idle⟩ := filled
  exact ⟨s, entry, run, found, at12, idle⟩

/-- The undelegation stays. -/
theorem undelegation_stays : ∃ s actions t after,
    Run (Fires step) State.init (fillByFetch 0 .default 10
      fun _ _ _ => .account 12 (some (List.replicate 96 5))) s ∧
    Run (Guarded (OnlyStream .default) (Fires step)) s actions t ∧
    stream .default actions = redelegation.filterMap (AccountUpdate.news .default) ∧
    t.db .default = some after ∧ after.record = none := by
  obtain ⟨s, entry, reached, found, at12, idle⟩ := exists_delegated
  obtain ⟨processes, stays⟩ := first_of_last_slot_stays found (by simp [news_redelegation])
    (by simp [news_redelegation, at12]) (by rw [news_redelegation]; rfl) about_redelegation
  obtain ⟨actions, t, run, heard⟩ := processes idle
  obtain ⟨after, first, present, earliest, same⟩ := stays actions t run heard
  cases earliest
  exact ⟨s, actions, t, after, reached, run, heard, present, same⟩

/-- The account stays undelegated although the last update delegates it. -/
theorem redelegation_in_one_slot_lost :
    ¬ ∀ (pda : Pubkey) earlier s entry (messages : List AccountUpdate) last actions t,
      Run (Fires step) State.init earlier s → s.db pda = some entry →
      (∀ message ∈ messages, (message.news pda).isSome) →
      ((messages.filterMap (AccountUpdate.news pda)).Pairwise
        fun earlier later => earlier.1 ≤ later.1) →
      (∀ first ∈ (messages.filterMap (AccountUpdate.news pda)).head?, entry.slot < first.1) →
      (messages.filterMap (AccountUpdate.news pda)).getLast? = some last →
      Run (Guarded (OnlyStream pda) (Fires step)) s actions t →
      stream pda actions = messages.filterMap (AccountUpdate.news pda) →
      ∃ after, t.db pda = some after ∧ after.record = last.2 := by
  intro claimed
  obtain ⟨s, entry, reached, found, at12, idle⟩ := exists_delegated
  have ordered : (redelegation.filterMap (AccountUpdate.news .default)).Pairwise
      fun earlier later => earlier.1 ≤ later.1 := by simp [news_redelegation]
  have newer : ∀ first ∈ (redelegation.filterMap (AccountUpdate.news .default)).head?,
      entry.slot < first.1 := by simp [news_redelegation, at12]
  obtain ⟨actions, t, run, heard⟩ := exists_processing redelegation about_redelegation idle found
  obtain ⟨after, first, present, earliest, stays⟩ :=
    first_of_processed found ordered newer rfl run heard
  obtain ⟨after', present', last⟩ := claimed _ _ s entry redelegation _ actions t reached found
    about_redelegation ordered newer rfl run heard
  cases earliest
  cases present.symm.trans present'
  have read : (ParsedDelegationRecord.fromBytes (List.replicate 96 5)).isSome = true := by
    decide +kernel
  have none : ParsedDelegationRecord.fromBytes (List.replicate 96 5) = none := last.symm.trans stays
  rw [none] at read
  cases read

end MagicRouter.Delegations
