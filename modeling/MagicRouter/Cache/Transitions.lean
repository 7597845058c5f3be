import MagicRouter.Cache.DelegationsInvariant

/-! The transition metric against the authority changes of the entries it is about. The
updater counts the changes it makes; a fetch that is merged late makes its own. -/

namespace MagicRouter.Delegations

open Library

def DelegationEntry.authority (entry : DelegationEntry) : Option Pubkey :=
  entry.record.map (·.authority)

/-- The label of a change of authority. -/
def Transition.between (old new : Option Pubkey) : Option Transition :=
  if old = new then none
  else
    match old, new with
    | none, _ => some .delegated
    | _, none => some .undelegated
    | _, _ => some .redelegated

/-- The change of an initialized entry's authority in a step, the entry staying. -/
def change (pda : Pubkey) (s t : State) : Option Transition :=
  match s.db pda, t.db pda with
  | some before, some after =>
    if before.slot = 0 then none else Transition.between before.authority after.authority
  | _, _ => none

/-- The changes of an entry in the steps that the actions take. -/
def changes (pda : Pubkey) : State → List Action → List Transition
  | _, [] => []
  | s, action :: rest =>
    match step s action with
    | none => []
    | some t => (change pda s t).toList ++ changes pda t rest

/-- The transitions counted for an entry. -/
def counted (pda : Pubkey) (s : State) : List Transition :=
  s.transitions.filterMap fun entry => if entry.1 = pda then some entry.2 else none

/-- No fetch is merged over an initialized entry that is older and has another authority. -/
def MergesAlike (pda : Pubkey) (s : State) (action : Action) : Prop :=
  ∀ call pc fetched entry, action = .merge call → s.calls call = some { pda, pc } →
    pc.fetched = some fetched → s.db pda = some entry → entry.slot ≠ 0 →
    entry.slot < fetched.slot → entry.authority = fetched.authority

variable {pda : Pubkey} {s t : State} {action : Action} {actions : List Action}
variable {entry before after : DelegationEntry}

theorem change_of_kept (found : s.db pda = some before) (present : t.db pda = some after)
    (same : before.authority = after.authority) : change pda s t = none := by
  simp [change, found, present, Transition.between, same]

theorem change_of_initialized (found : s.db pda = some before) (present : t.db pda = some after)
    (filled : before.slot ≠ 0) :
    change pda s t = Transition.between before.authority after.authority := by
  simp [change, found, present, filled]

theorem change_of_same (same : t.db pda = s.db pda) : change pda s t = none := by
  cases found : s.db pda with
  | none => simp [change, found]
  | some entry => exact change_of_kept found (same.trans found) rfl

theorem change_of_absent (absent : s.db pda = none ∨ t.db pda = none) : change pda s t = none := by
  rcases absent with absent | absent
  · simp [change, absent]
  · cases found : s.db pda <;> simp [change, found, absent]

/-- The updater counts exactly the change it makes to an entry. -/
theorem countTransition_eq (s : State) (key : Pubkey) (entry : DelegationEntry)
    (record : Option ParsedDelegationRecord) :
    s.countTransition key entry record = s.transitions ++
      (if entry.slot = 0 then none
        else Transition.between entry.authority (record.map (·.authority))).toList.map (key, ·) := by
  unfold State.countTransition Transition.between DelegationEntry.authority
  by_cases empty : entry.slot = 0
  · simp [empty]
  · by_cases same : entry.record.map (·.authority) = record.map (·.authority)
    · simp [same]
    · simp only [empty, same, ne_eq, not_false_eq_true, and_self, if_true, if_false]
      cases entry.record.map (·.authority) with
      | none => rfl
      | some old => cases record.map (·.authority) <;> rfl

/-- Only an update counts. -/
theorem Step.transitions_eq (step : Step s action t) (other : ∀ message, action ≠ .update message) :
    t.transitions = s.transitions := by
  cases step with
  | call _ edge => cases edge <;> rfl
  | install | ignore | interrupt => exact absurd rfl (other _)
  | start | serveUnsubscribe | serveCancelled | notify | sweep | swept => rfl

theorem counted_of_append {key : Pubkey} {labels : List Transition}
    (appended : t.transitions = s.transitions ++ labels.map (key, ·)) :
    counted pda t = counted pda s ++ if key = pda then labels else [] := by
  rw [counted, appended, List.filterMap_append, ← counted, List.filterMap_map]
  by_cases same : key = pda <;> simp [same]

/-- An update counts the change it makes. -/
theorem counted_of_update {message : AccountUpdate} (step : Step s (.update message) t) :
    counted pda t = counted pda s ++ (change pda s t).toList := by
  cases step with
  | call _ edge => cases edge
  | install _ _ found _ =>
    rename_i key slot record entry _ _ _
    rw [counted_of_append (countTransition_eq s key entry record)]
    congr 1
    split
    · subst key
      rw [change, found]
      simp only [State.setEntry_db, if_true]
      rfl
    · rename_i different
      rw [change_of_same]
      · rfl
      · simp [State.setEntry_db, Ne.symm different]
  | ignore => simp [change_of_same]
  | interrupt =>
    have still : change pda s { s with updater := .clearing } = none := change_of_same rfl
    simp [still, counted]

theorem mergesAlike_iff {call : CallId} {pc : Pc} {fetched : DelegationEntry}
    (running : s.calls call = some { pda, pc }) (carries : pc.fetched = some fetched)
    (found : s.db pda = some entry) :
    MergesAlike pda s (.merge call) ↔
      (entry.slot ≠ 0 → entry.slot < fetched.slot → entry.authority = fetched.authority) := by
  constructor
  · intro alike
    exact alike call pc fetched entry rfl running carries found
  · intro alike call' pc' fetched' entry' same running' carries' found'
    cases same
    cases running.symm.trans running'
    cases carries.symm.trans carries'
    cases found.symm.trans found'
    exact alike

theorem between_isSome_iff {old new : Option Pubkey} :
    (Transition.between old new).isSome ↔ old ≠ new := by
  unfold Transition.between
  split
  · simp [*]
  · split <;> simp [*]

/-- Merging over an entry changes its authority unless the fetch has the same one. -/
theorem change_of_merge {call : CallId} {pc : Pc} {fetched : DelegationEntry} {fill : Option FillId}
    (coherent : Coherent s) (running : s.calls call = some { pda, pc })
    (carries : pc.fetched = some fetched)
    (merged : t.db pda = (mergeFetched (s.db pda) fetched fill).1) :
    (change pda s t).isSome ↔ ¬ MergesAlike pda s (.merge call) := by
  rcases mergeFetched_cases (s.db pda) fetched fill with ⟨vacant, _⟩ | ⟨before, found, outcome⟩
  · rw [change_of_absent (.inl vacant)]
    refine iff_of_false (by simp) (not_not_intro ?_)
    intro _ _ _ entry _ _ _ present
    cases vacant.symm.trans present
  · rw [mergesAlike_iff running carries found]
    rcases outcome with ⟨pending, waits, _, same⟩ | ⟨_, ⟨newer, same⟩ | ⟨older, same⟩⟩
    · rw [change_of_same (merged.trans (by rw [same, found]))]
      refine iff_of_false (by simp) (not_not_intro ?_)
      intro filled
      cases waits.symm.trans (coherent.filled pda before found filled)
    · have present : t.db pda = some fetched := merged.trans (by rw [same])
      by_cases empty : before.slot = 0
      · simp [change, found, present, empty]
      · rw [change_of_initialized found present empty, between_isSome_iff]
        simp [empty, newer]
    · rw [change_of_same (merged.trans (by rw [same, found]))]
      refine iff_of_false (by simp) (not_not_intro ?_)
      intro _ newer
      omega

/-- The fetch that an action merges into the entry. -/
def Merges (pda : Pubkey) (s : State) (action : Action) (fetched : DelegationEntry) : Prop :=
  ∃ call pc, action = .merge call ∧ s.calls call = some { pda, pc } ∧ pc.fetched = some fetched

theorem Merges.db {fetched : DelegationEntry} (merges : Merges pda s action fetched)
    (step : Step s action t) : ∃ fill, t.db pda = (mergeFetched (s.db pda) fetched fill).1 := by
  obtain ⟨call, pc, rfl, running, carries⟩ := merges
  cases step with
  | call theirs edge =>
    cases edge with
    | remerge =>
      cases running.symm.trans theirs
      cases carries
      exact ⟨_, by rw [State.goto_db, State.setEntry_db, if_pos rfl]⟩
    | merge =>
      cases running.symm.trans theirs
      cases carries
      exact ⟨_, by rw [State.goto_db, State.setEntry_db, if_pos rfl]⟩

/-- A step other than an update changes the authority of an entry only by a merge. -/
theorem change_isSome_iff (pda : Pubkey) (coherent : Coherent s) (step : Step s action t)
    (other : ∀ message, action ≠ .update message) :
    (change pda s t).isSome ↔ ¬ MergesAlike pda s action := by
  by_cases merges : ∃ fetched, Merges pda s action fetched
  · obtain ⟨fetched, merges⟩ := merges
    obtain ⟨fill, merged⟩ := merges.db step
    obtain ⟨call, pc, rfl, running, carries⟩ := merges
    exact change_of_merge coherent running carries merged
  · have alike : MergesAlike pda s action := by
      intro call pc fetched _ same running carries
      exact absurd ⟨fetched, call, pc, same, running, carries⟩ merges
    suffices still : change pda s t = none by simp [still, alike]
    have changed := step.entryChange pda
    generalize present : t.db pda = entry at changed
    cases changed with
    | same => exact change_of_same present
    | placed _ vacant => exact change_of_absent (.inl vacant)
    | evicted | removed | swept => exact change_of_absent (.inr present)
    | claimed _ found | released _ found => exact change_of_kept found present rfl
    | remerged running | merged running => exact absurd ⟨_, _, _, rfl, running, rfl⟩ merges
    | installed => exact absurd rfl (other _)

/-- A step counts the change it makes to an entry, unless it merges a fetch with another
authority over it; such a change is not counted. -/
theorem counted_of_step (pda : Pubkey) (coherent : Coherent s) (step : Step s action t) :
    counted pda t = counted pda s ++ (change pda s t).toList ∧ MergesAlike pda s action ∨
      counted pda t = counted pda s ∧ (change pda s t).isSome ∧ ¬ MergesAlike pda s action := by
  by_cases updates : ∃ message, action = .update message
  · obtain ⟨message, rfl⟩ := updates
    refine .inl ⟨counted_of_update step, ?_⟩
    intro _ _ _ _ same
    cases same
  · have other (message : AccountUpdate) : action ≠ .update message := by
      intro same
      exact updates ⟨message, same⟩
    have kept : counted pda t = counted pda s := by
      rw [counted, step.transitions_eq other, ← counted]
    have changed := change_isSome_iff pda coherent step other
    by_cases alike : MergesAlike pda s action
    · have still : change pda s t = none := by simpa [alike] using changed
      exact .inl ⟨by simp [kept, still], alike⟩
    · exact .inr ⟨kept, changed.mpr alike, alike⟩

theorem changes_snoc {u : State} (run : Run (Fires step) s actions t)
    (last : step t action = some u) :
    changes pda s (actions ++ [action]) = changes pda s actions ++ (change pda t u).toList := by
  induction actions generalizing s with
  | nil =>
    cases run.of_nil
    simp [changes, last]
  | cons first rest ih =>
    obtain ⟨middle, fired, later⟩ := run.of_cons
    have fired : step s first = some middle := fired
    simp only [List.cons_append, changes, fired]
    rw [ih later, List.append_assoc]

/-- From any reachable state on, only changes of the entry are counted, each under its
label, and all of them exactly if no step merges a fetch with another authority over
the initialized entry. -/
theorem counts_changes_iff {earlier : List Action}
    (reached : Run (Fires step) State.init earlier s) (run : Run (Fires step) s actions t) :
    (∃ labels, counted pda t = counted pda s ++ labels ∧ labels.Sublist (changes pda s actions)) ∧
    (counted pda t = counted pda s ++ changes pda s actions ↔
      Run (Guarded (MergesAlike pda) (Fires step)) s actions t) := by
  induction run with
  | nil => exact ⟨⟨[], by simp [changes]⟩, iff_of_true (by simp [changes]) .nil⟩
  | @snoc actions t action u before last ih =>
    obtain ⟨⟨labels, count, part⟩, exact_iff⟩ := ih
    have coherent : Coherent t := .reached (reached.append before)
    rw [guarded_snoc_iff before last, ← exact_iff, changes_snoc before last]
    rcases counted_of_step pda coherent (step_sound last) with
      ⟨counts, alike⟩ | ⟨kept, changed, differs⟩
    · refine ⟨⟨labels ++ (change pda t u).toList, ?_, part.append (.refl _)⟩, ?_⟩
      · rw [counts, count, List.append_assoc]
      · rw [counts, ← List.append_assoc, List.append_cancel_right_eq]
        exact (and_iff_left alike).symm
    · refine ⟨⟨labels, kept.trans count, part.trans (List.sublist_append_left ..)⟩, ?_⟩
      refine iff_of_false ?_ (fun both => differs both.2)
      -- the counted labels are among the earlier changes, so the last one is missing
      intro all
      rw [kept, count, List.append_cancel_left_eq] at all
      have short := part.length_le
      obtain ⟨label, same⟩ := Option.isSome_iff_exists.mp changed
      rw [all, same, List.length_append, Option.toList_some, List.length_singleton] at short
      omega

/-- An entry waiting for its fetch is filled by the stream at slot 12; the fetch then
reports that the account was undelegated by slot 15. -/
def lateFetch : List Action :=
  [.start 0 .default, .read 0, .insert 0 none, .subscribe 0, .serve 10, .claim 0,
    .update (.delegated .default (List.replicate 96 5) 12), .notify,
    .fetched 0 fun _ _ _ => .missing 15]

/-- The merge undelegates the entry, and nothing is counted. -/
theorem late_merge_not_counted :
    ¬ ∀ (pda : Pubkey) earlier s actions t, Run (Fires step) State.init earlier s →
      Throughout step (fun s => (s.db pda).isSome) s actions → Run (Fires step) s actions t →
      counted pda t = counted pda s ++ changes pda s actions := by
  intro claimed
  obtain ⟨s, reached, filled⟩ := exists_run_of_exec
    (show (exec step State.init lateFetch).map (fun s => (s.db .default).isSome &&
        (step s (.merge 0)).any fun t => (t.db .default).isSome &&
          decide (counted .default t = counted .default s) &&
          decide (changes .default s [.merge 0] = [.undelegated])) = some true by decide +kernel)
  simp only [Bool.and_eq_true, Option.any_eq_true, decide_eq_true_eq] at filled
  obtain ⟨before, t, fired, ⟨after, kept⟩, changed⟩ := filled
  have stays : Throughout step (fun s => (s.db .default).isSome) s [.merge 0] :=
    (throughout_snoc .nil fired).mpr ⟨throughout_nil.mpr before, after⟩
  have counts := claimed .default _ s [.merge 0] t reached stays (.single fired)
  rw [kept, changed] at counts
  simp at counts

/-- An undelegation and a new delegation by the stream are counted as such. -/
theorem stream_changes_counted : ∃ s t,
    Run (Fires step) State.init (fillByFetch 0 .default 10
      fun _ _ _ => .account 12 (some (List.replicate 96 5))) s ∧
    Run (Fires step) s [.update (.undelegated .default 15),
      .update (.delegated .default (List.replicate 96 6) 20)] t ∧
    counted .default t = [.undelegated, .delegated] := by
  obtain ⟨s, reached, filled⟩ := exists_run_of_exec
    (show (exec step State.init (fillByFetch 0 .default 10
        fun _ _ _ => .account 12 (some (List.replicate 96 5)))).map (fun s =>
      decide (counted .default s = []) &&
      (exec step s [.update (.undelegated .default 15),
        .update (.delegated .default (List.replicate 96 6) 20)]).isSome &&
      decide (changes .default s [.update (.undelegated .default 15),
        .update (.delegated .default (List.replicate 96 6) 20)] = [.undelegated, .delegated])) =
      some true by decide +kernel)
  simp only [Bool.and_eq_true, decide_eq_true_eq] at filled
  obtain ⟨⟨none, executed⟩, changed⟩ := filled
  obtain ⟨t, executed⟩ := Option.isSome_iff_exists.mp executed
  have run := Run.of_exec executed
  have guarded : Run (Guarded (MergesAlike .default) (Fires step)) s
      [.update (.undelegated .default 15), .update (.delegated .default (List.replicate 96 6) 20)]
      t := by
    apply run.guarded
    intro action member s call _ _ _ merges
    simp [merges] at member
  refine ⟨s, t, reached, run, ?_⟩
  rw [(counts_changes_iff reached run).2.mpr guarded, none, changed]
  rfl

end MagicRouter.Delegations
