import MagicRouter.Cache.DelegationsInvariant

/-! Which cache entries are covered by a stream subscription. An eviction takes
the entry out first and sends the unsubscription later, so the account may have
been cached and subscribed again by the time the syncer handles it. -/

namespace MagicRouter.Delegations

open Library

/-- The call has put its placeholder and its subscription is not handled yet. -/
def Pc.opening : Pc → Bool
  | .evicting _ _ | .subscribing _ | .awaiting _ => true
  | _ => false

/-- Some call on the account still has its subscription to come. -/
def Opening (s : State) (pda : Pubkey) : Prop :=
  ∃ call pc, s.calls call = some { pda, pc } ∧ pc.opening = true

/-- An unsubscription is handled only while its account is not cached or the
subscription of a call that cached it again is still to come. -/
def LateUnsubscribe (s : State) : Action → Prop
  | .serve _ => ∀ pda rest, s.requests = .unsubscribe pda :: rest →
      s.db pda = none ∨ Opening s pda
  | _ => True

/-- The assumptions on the environment: no call is cancelled and the syncer is running. -/
def Undisturbed : Action → Prop
  | .cancel _ | .refuse _ => False
  | _ => True

/-- Every cached entry is subscribed or about to be. -/
structure Covered (s : State) : Prop where
  requested : ∀ pda call, .subscribe pda call ∈ s.requests →
    ∃ pc, s.calls call = some { pda, pc }
  covered : ∀ pda, s.db pda ≠ none → pda ∈ s.subscribed ∨ Opening s pda

variable {s t : State} {action : Action} {actions : List Action} {pda : Pubkey}

/-- A subscription is given up only by an unsubscription the syncer handles. -/
theorem Step.subscribed (step : Step s action t) (subscribed : pda ∈ s.subscribed) :
    pda ∈ t.subscribed ∨
      ∃ slot rest, action = .serve slot ∧ s.requests = .unsubscribe pda :: rest ∧
        t.calls = s.calls := by
  cases step with
  | @serveUnsubscribe rest other slot oldest =>
    by_cases same : pda = other
    · subst same
      exact .inr ⟨slot, rest, rfl, oldest, rfl⟩
    · exact .inl (Finset.mem_erase.mpr ⟨same, subscribed⟩)
  | serveCancelled => exact .inl (Finset.mem_insert_of_mem subscribed)
  | call _ edge =>
    cases edge with
    | served => exact .inl (Finset.mem_insert_of_mem subscribed)
    | _ => exact .inl subscribed
  | _ => exact .inl subscribed

theorem Step.requested (step : Step s action t) {call : CallId}
    (member : .subscribe pda call ∈ t.requests) :
    .subscribe pda call ∈ s.requests ∨ ∃ pc, s.calls call = some { pda, pc } := by
  cases step with
  | serveUnsubscribe oldest | serveCancelled oldest =>
    rw [oldest]
    exact .inl (List.mem_cons_of_mem _ member)
  | call running edge =>
    cases edge with
    | served oldest =>
      rw [oldest]
      exact .inl (List.mem_cons_of_mem _ member)
    | refuse => exact .inl (List.mem_of_mem_filter member)
    | unsubscribe => exact .inl (by simpa using member)
    | subscribe =>
      simp only [State.goto_requests, State.enqueue_requests, List.mem_append,
        List.mem_singleton, SyncRequest.subscribe.injEq] at member
      rcases member with before | ⟨rfl, rfl⟩
      · exact .inl before
      · exact .inr ⟨_, running⟩
    | _ => exact .inl member
  | _ => exact .inl member

theorem Pc.ended_of_opening {pc : Pc} (opening : pc.opening = true) : pc.ended = false := by
  cases pc <;> first | rfl | cases opening

namespace Covered

theorem init : Covered State.init where
  requested _ _ member := by cases member
  covered _ present := absurd rfl present

theorem requested_step (covered : Covered s) (step : Step s action t) {call : CallId}
    (member : .subscribe pda call ∈ t.requests) : ∃ pc, t.calls call = some { pda, pc } := by
  rcases step.requested member with before | ⟨pc, running⟩
  · obtain ⟨pc, running⟩ := covered.requested pda call before
    exact step.calls_pda running
  · exact step.calls_pda running

/-- A call about to subscribe its account still is, or the account is subscribed. -/
theorem opening_step (covered : Covered s) (undisturbed : Undisturbed action)
    (step : Step s action t) (opening : Opening s pda) : pda ∈ t.subscribed ∨ Opening t pda := by
  obtain ⟨call, pc, running, open_⟩ := opening
  cases step.fate running with
  | same after => exact .inr ⟨call, pc, after, open_⟩
  | woken => cases open_
  | moved edge reached =>
    subst reached
    cases edge with
    | unsubscribe | subscribe => exact .inr ⟨call, _, State.goto_calls_self .., rfl⟩
    | served oldest =>
      obtain ⟨pc, requester⟩ := covered.requested _ call (by rw [oldest]; exact List.mem_cons_self)
      cases running.symm.trans requester
      exact .inl (Finset.mem_insert_self ..)
    | refuse | cancelOwner | cancel => exact undisturbed.elim
    | _ => cases open_

theorem step (covered : Covered s) (undisturbed : Undisturbed action)
    (late : LateUnsubscribe s action) (step : Step s action t) : Covered t where
  requested _ _ member := covered.requested_step step member
  covered := by
    intro pda present
    -- an entry not put by this step was there before
    have before : Opening t pda ∨ s.db pda ≠ none := by
      generalize after : t.db pda = changed at present
      cases after ▸ step.entryChange pda with
      | same => exact .inr present
      | placed _ _ moved posts =>
        rcases posts with rfl | ⟨victim, rfl⟩ <;> exact .inl ⟨_, _, moved, rfl⟩
      | evicted | removed | swept => exact absurd rfl present
      | claimed _ found | released _ found | installed _ found => exact .inr (by simp [found])
      | remerged | merged => exact .inr fun vacant => present (mergeFetched_eq_none.mpr vacant)
    rcases before with opening | held
    · exact .inr opening
    · rcases covered.covered pda held with subscribed | opening
      · rcases step.subscribed subscribed with still | ⟨slot, rest, rfl, oldest, calls⟩
        · exact .inl still
        · rcases late pda rest oldest with vacant | ⟨call, pc, running, open_⟩
          · exact absurd vacant held
          · exact .inr ⟨call, pc, calls ▸ running, open_⟩
      · exact covered.opening_step undisturbed step opening

theorem reached (run : Run (Guarded LateUnsubscribe (Fires Delegations.step)) State.init actions s)
    (undisturbed : ∀ action ∈ actions, Undisturbed action) : Covered s :=
  run.invariant_of_allowed init (fun _ _ _ allowed covered fired =>
    covered.step allowed fired.1 (step_sound fired.2)) undisturbed

end Covered

/-- Every call has returned or was cancelled. -/
def Quiet (s : State) : Prop :=
  ∀ call running, s.calls call = some running → running.pc.ended = true

/-- In every run in which no unsubscription is handled after its account was
cached and subscribed again, each served entry has a live subscription whenever
no call is in progress. -/
theorem quiet_entry_subscribed {entry : DelegationEntry}
    (run : Run (Guarded LateUnsubscribe (Fires step)) State.init actions s)
    (undisturbed : ∀ action ∈ actions, Undisturbed action) (quiet : Quiet s)
    (found : s.db pda = some entry) (_served : entry.slot ≠ 0) : pda ∈ s.subscribed := by
  rcases (Covered.reached run undisturbed).covered pda (by simp [found]) with
    subscribed | ⟨call, pc, running, open_⟩
  · exact subscribed
  · have ended : pc.ended = true := quiet call _ running
    simp [Pc.ended_of_opening open_] at ended

/-- The action starts no call but the given ones. -/
def Action.startsAmong (calls : List CallId) : Action → Bool
  | .start call _ => call ∈ calls
  | _ => true

theorem Quiet.of_started {calls : List CallId} (run : Run (Fires step) State.init actions s)
    (known : actions.all (Action.startsAmong calls) = true)
    (ended : calls.all (fun call => (s.calls call).all (·.pc.ended)) = true) : Quiet s := by
  intro call running there
  have member : call ∈ calls :=
    of_decide_eq_true (List.all_eq_true.mp known _ (started_of_found run there))
  simpa [there] using List.all_eq_true.mp ended call member

/-- A provider that finds no account at slot 30. -/
def absentAtThirty : Rpc := fun _ _ _ => .missing 30

/-- Call 1 evicts the entry of call 0, and its unsubscription is handled while
that account is not cached. -/
def promptEviction : List Action :=
  fillByFetch 0 .default 10 absentAtThirty ++
    [.start 1 (.repeating 1), .read 1, .insert 1 (some .default), .unsubscribe 1, .serve 21,
      .subscribe 1, .serve 22, .claim 1, .fetched 1 absentAtThirty, .merge 1, .release 1, .resolve 1]

theorem quiet_entry_subscribed_eviction :
    ∃ s entry, Run (Guarded LateUnsubscribe (Fires step)) State.init promptEviction s ∧
      s.db (.repeating 1) = some entry ∧ entry.slot = 30 ∧ Pubkey.repeating 1 ∈ s.subscribed := by
  let late (s : State) (action : Action) : Bool := match action, s.requests with
    | .serve _, .unsubscribe pda :: _ => (s.db pda).isNone
    | _, _ => true
  obtain ⟨s, checkedRun, checked⟩ := exists_run_of_exec
    (show (exec (checkedStep late step) State.init promptEviction).map (fun s =>
        (s.db (.repeating 1)).any (·.slot = 30) &&
          [0, 1].all fun call => (s.calls call).all (·.pc.ended)) = some true by decide +kernel)
  have run : Run (Guarded LateUnsubscribe (Fires step)) State.init promptEviction s := by
    apply checkedRun.guarded_of_checked
    intro s action allowed
    cases action with
    | serve slot =>
      intro pda rest oldest
      simp only [late, oldest] at allowed
      exact .inl (by simpa using allowed)
    | _ => trivial
  simp only [Bool.and_eq_true, Option.any_eq_true, decide_eq_true_eq] at checked
  obtain ⟨⟨entry, found, filled⟩, ended⟩ := checked
  have quiet : Quiet s := .of_started run.unguarded (by decide) ended
  refine ⟨s, entry, run, found, filled, quiet_entry_subscribed run ?_ quiet found (by omega)⟩
  simp only [promptEviction, fillByFetch, List.cons_append, List.nil_append, List.forall_mem_cons,
    Undisturbed, true_and]
  exact List.forall_mem_nil _

/-- Call 1 evicts the entry of call 0, and call 2 caches and subscribes it again
before call 1 has sent its unsubscription. -/
def overtakenEviction : List Action :=
  fillByFetch 0 .default 10 absentAtThirty ++
    [.start 1 (.repeating 1), .read 1, .insert 1 (some .default)] ++
    fillByFetch 2 .default 20 absentAtThirty ++
    [.unsubscribe 1, .serve 21, .subscribe 1, .serve 22, .claim 1, .fetched 1 absentAtThirty,
      .merge 1, .release 1, .resolve 1]

theorem overtakenEviction_uncovered :
    ¬ ∀ actions s pda entry, Run (Fires step) State.init actions s →
      (∀ action ∈ actions, Undisturbed action) → Quiet s → s.db pda = some entry →
      entry.slot ≠ 0 → pda ∈ s.subscribed := by
  intro claimed
  obtain ⟨s, run, checked⟩ := exists_run_of_exec
    (show (exec step State.init overtakenEviction).map (fun s =>
        (s.db .default).any (·.slot ≠ 0) && decide (Pubkey.default ∉ s.subscribed) &&
          [0, 1, 2].all fun call => (s.calls call).all (·.pc.ended)) = some true by decide +kernel)
  simp only [Bool.and_eq_true, Option.any_eq_true, decide_eq_true_eq] at checked
  obtain ⟨⟨⟨entry, found, served⟩, uncovered⟩, ended⟩ := checked
  have quiet : Quiet s := .of_started run (by decide) ended
  refine uncovered (claimed _ s _ entry run ?_ quiet found served)
  simp only [overtakenEviction, fillByFetch, List.cons_append, List.nil_append,
    List.forall_mem_cons, Undisturbed, true_and]
  exact List.forall_mem_nil _

end MagicRouter.Delegations
