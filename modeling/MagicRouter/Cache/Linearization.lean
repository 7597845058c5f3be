import MagicRouter.Cache.FetchTrace

/-! Linearization of `get_record`: every return path gives a record the entry
held at some moment of the call. The moment is the read of a cached hit, the
merge of an own fetch, or the moment the owner of the awaited fill decided. -/

namespace MagicRouter.Delegations

open Library

/-- At some moment of the window the entry held the record; if it was not filled
then, a fetch of the owner had failed. -/
def HeldFor (prior : List Action) (pda : Pubkey) (owner : CallId)
    (record : Option ParsedDelegationRecord) (first : State) (actions : List Action) (t : State) :
    Prop :=
  Met (Fires step) (fun middle => ∃ entry, middle.db pda = some entry ∧ entry.record = record ∧
    (entry.slot = 0 → FetchFailed (prior ++ actions) owner pda)) first actions t

/-- The owner of the fill has decided its result. -/
def Decided (t : State) (fill : FillId) (owner : CallId) (record : Option ParsedDelegationRecord) :
    Prop :=
  (∃ pda pc, t.calls owner = some { pda, pc } ∧ pc.decided = some (fill, record)) ∨
    t.fills fill = some (.resolved owner record)

/-- What holds, from then on, of a fill that was pending on the entry at some
moment of the window. -/
structure Followed (prior : List Action) (pda : Pubkey) (first : State) (actions : List Action)
    (t : State) (fill : FillId) : Prop where
  known : t.fills fill ≠ none
  owner : ∀ call key pc, t.calls call = some { pda := key, pc } → pc.owned = some fill →
    key = pda ∧ ((∃ record, pc.decided = some (fill, record)) ∨
      pc.undecided = some fill ∧
        ∃ entry, t.db pda = some entry ∧ (Awaits fill entry ∨ entry.slot ≠ 0))
  decided : ∀ owner record, Decided t fill owner record →
    HeldFor prior pda owner record first actions t

/-- Between its start and its return the call was handed the record as the result
of a fill it waited on. -/
def Joined (pda : Pubkey) (call owner : CallId) (record : Option ParsedDelegationRecord)
    (first : State) (actions : List Action) (t : State) : Prop :=
  ∃ fill, Met (Fires step) (fun middle => middle.calls call = some { pda, pc := .waiting fill } ∧
    middle.fills fill = some (.resolved owner record)) first actions t

/-- What holds of the call under observation, from its start on. -/
structure Observed (prior : List Action) (pda : Pubkey) (call : CallId) (first : State)
    (actions : List Action) (t : State) : Prop where
  waits : ∀ fill, t.calls call = some { pda, pc := .waiting fill } →
    Followed prior pda first actions t fill
  owns : ∀ pc fill, t.calls call = some { pda, pc } → pc.owned = some fill →
    pc = .inserting fill ∨ Followed prior pda first actions t fill
  refetches : ∀ pc, t.calls call = some { pda, pc } →
    ((∃ slot, pc = .refetching slot) ∨ ∃ fetched, pc = .remerging fetched) →
    ∃ entry, t.db pda = some entry ∧ entry.pendingFill = none
  returns : ∀ record, t.calls call = some { pda, pc := .returned record } →
    HeldFor prior pda call record first actions t ∨
      ∃ owner, Joined pda call owner record first actions t ∧
        HeldFor prior pda owner record first actions t

variable {prior actions : List Action} {first s t : State} {action : Action} {pda : Pubkey}
variable {call other : CallId} {fill : FillId} {pc : Pc} {entry : DelegationEntry}
variable {record : Option ParsedDelegationRecord}

theorem Pc.decided_of_undecided (undecided : pc.undecided = some fill) : pc.decided = none := by
  cases pc <;> first | rfl | cases undecided

/-- A call comes to serve a placeholder by inserting it. -/
theorem Step.undecided_before {key : Pubkey} (step : Step s action t)
    (found : t.calls call = some { pda := key, pc }) (undecided : pc.undecided = some fill) :
    ∃ before, s.calls call = some { pda := key, pc := before } ∧
      (before = .inserting fill ∨ before.undecided = some fill) := by
  cases step.origin found with
  | same running => exact ⟨_, running, .inr undecided⟩
  | started => cases undecided
  | woken running => exact ⟨_, running, .inr undecided⟩
  | moved running edge =>
    refine ⟨_, running, ?_⟩
    cases edge with
    | insert | evict =>
      cases undecided
      exact .inl rfl
    | unsubscribe | subscribe | served | claim | arm | park | wake | fetched => exact .inr undecided
    | _ => cases undecided

theorem Step.inserting_before {key : Pubkey} (step : Step s action t)
    (found : t.calls call = some { pda := key, pc := .inserting fill }) :
    s.calls call = some { pda := key, pc := .inserting fill } ∨ fill = s.nextFill := by
  cases step.origin found with
  | same running => exact .inl running
  | moved _ edge =>
    cases edge with
    | miss => exact .inr rfl

namespace HeldFor

theorem here (during : Run (Fires step) first actions t) (held : t.db pda = some entry)
    (failed : entry.slot = 0 → FetchFailed (prior ++ actions) call pda) :
    HeldFor prior pda call entry.record first actions t :=
  Met.here during ⟨entry, held, rfl, failed⟩

theorem snoc (held : HeldFor prior pda call record first actions s)
    (fired : step s action = some t) :
    HeldFor prior pda call record first (actions ++ [action]) t := by
  apply (Met.snoc held fired).imp
  rintro middle ⟨entry, found, same, failed⟩
  refine ⟨entry, found, same, fun empty => ?_⟩
  rw [← List.append_assoc]
  exact (failed empty).snoc

end HeldFor

/-- While its owner is undecided, a placeholder stays or is filled. -/
theorem Coherent.undecided_step (coherent : Coherent s) (traced : Traced actions s)
    (step : Step s action t) (keeps : Keeps pda action)
    (running : s.calls call = some { pda, pc }) (undecided : pc.undecided = some fill)
    (held : s.db pda = some entry) (waiting : Awaits fill entry ∨ entry.slot ≠ 0) :
    ∃ after, t.db pda = some after ∧ (Awaits fill after ∨ after.slot ≠ 0) := by
  have owned := Pc.owned_of_undecided undecided
  have merged (fetched : DelegationEntry) (own : Option FillId) :
      ∃ after, (mergeFetched (s.db pda) fetched own).1 = some after ∧
        (Awaits fill after ∨ after.slot ≠ 0) := by
    rw [held]
    obtain ⟨after, same, rfl | ⟨rfl, newer⟩⟩ := mergeFetched_some entry fetched own
    · exact ⟨after, same, waiting⟩
    · exact ⟨after, same, .inr (Nat.ne_zero_of_lt newer)⟩
  generalize changed : t.db pda = after
  cases changed ▸ step.entryChange pda with
  | same => exact ⟨entry, held, waiting⟩
  | placed _ vacant => simp [held] at vacant
  | evicted | swept => exact absurd rfl keeps
  | removed theirs removes found awaits =>
    cases held.symm.trans found
    rcases waiting with mine | filled
    · cases awaits.2.symm.trans mine.2
      rcases removes with rfl | rfl
      · cases (coherent.orphaned _ _ _ theirs).symm.trans (coherent.owners _ _ _ _ running owned)
      · cases traced.served _ _ _ theirs
    · exact absurd awaits.1 filled
  | claimed _ found =>
    cases held.symm.trans found
    exact ⟨_, rfl, waiting⟩
  | remerged | merged => exact merged _ _
  | released theirs found pending =>
    cases held.symm.trans found
    rcases waiting with mine | filled
    · cases pending.symm.trans mine.2
      cases coherent.owner_unique running owned theirs rfl
      cases running.symm.trans theirs
      cases undecided
    · exact ⟨_, rfl, .inr filled⟩
  | installed _ found newer => exact ⟨_, rfl, .inr (Nat.ne_zero_of_lt newer)⟩

/-- A merge into an entry that no other fill is pending on returns what it leaves
there, and leaves it unfilled only after a failed fetch. -/
theorem merged_held {fetched : DelegationEntry} {own : Option FillId}
    (traced : Traced (prior ++ actions) s) (during : Run (Fires step) first actions s)
    (fired : step s action = some t) (running : s.calls call = some { pda, pc })
    (carries : pc.fetched = some fetched) (held : s.db pda = some entry)
    (free : entry.pendingFill = none ∨ entry.pendingFill = own)
    (merged : t.db pda = (mergeFetched (s.db pda) fetched own).1) :
    HeldFor prior pda call (mergeFetched (s.db pda) fetched own).2 first (actions ++ [action]) t := by
  have after : Run (Fires step) first (actions ++ [action]) t := .snoc during fired
  rcases mergeFetched_cases (s.db pda) fetched own with ⟨vacant, _⟩ | ⟨current, found, outcome⟩
  · simp [held] at vacant
  · cases held.symm.trans found
    rcases outcome with ⟨pending, foreign, different, _⟩ | ⟨_, ⟨newer, same⟩ | ⟨older, same⟩⟩
    · rcases free with none | mine
      · cases foreign.symm.trans none
      · exact absurd (foreign.symm.trans mine) different
    · rw [same] at merged ⊢
      exact .here after merged fun empty => absurd newer (by simp [empty])
    · rw [same] at merged ⊢
      refine .here after merged fun empty => ?_
      rw [← List.append_assoc]
      exact (traced.failed _ _ _ _ running carries (Nat.le_zero.mp (empty ▸ older))).snoc

namespace Followed

/-- A fill that is pending now has an owner at work on this entry, and if the
owner has decided, its fetch has failed. -/
theorem of_awaits (coherent : Coherent t) (traced : Traced (prior ++ actions) t)
    (during : Run (Fires step) first actions t) (held : t.db pda = some entry)
    (awaits : Awaits fill entry) : Followed prior pda first actions t fill := by
  obtain ⟨⟨known, unresolved⟩, served⟩ := coherent.pending _ _ _ held awaits.2
  refine ⟨known, ?_, ?_⟩
  · intro call key pc running owned
    obtain ⟨rfl, posted⟩ := served _ _ _ running owned
    refine ⟨rfl, ?_⟩
    rcases Pc.owned_cases owned with rfl | undecided | refused | decided
    · cases posted
    · exact .inr ⟨undecided, entry, held, .inl awaits⟩
    · simp [traced.served _ _ _ running] at refused
    · exact .inl decided
  · rintro owner record (⟨key, pc, running, decided⟩ | resolved)
    · obtain ⟨rfl, posted⟩ := served _ _ _ running (Pc.owned_of_decided decided)
      cases pc with
      | releasing own result =>
        cases decided
        obtain ⟨rfl, failed⟩ := traced.released _ _ _ _ _ running held awaits
        rw [← coherent.empty _ _ held awaits.1]
        exact .here during held fun _ => failed
      | resolving => cases posted
      | _ => cases decided
    · exact absurd resolved (unresolved owner record)

variable (followed : Followed prior pda first actions s fill) (coherent : Coherent s)
include followed coherent

theorem known_step (step : Step s action t) : t.fills fill ≠ none := by
  cases step.channel fill with
  | same kept => exact kept ▸ followed.known
  | created fresh => exact absurd fresh (coherent.created_fresh followed.known)
  | dropped _ _ _ _ outcome => simp [outcome]
  | resolved _ _ outcome => simp [outcome]

omit coherent in
theorem not_inserting {key : Pubkey}
    (running : s.calls call = some { pda := key, pc := .inserting fill }) : False := by
  obtain ⟨_, ⟨_, decided⟩ | ⟨undecided, _⟩⟩ := followed.owner _ _ _ running rfl
  · cases decided
  · cases undecided

/-- An owner that is undecided after a step was so before, with the placeholder
still there or filled. -/
theorem undecided_step {key : Pubkey} (traced : Traced (prior ++ actions) s)
    (keeps : Keeps pda action) (step : Step s action t)
    (found : t.calls call = some { pda := key, pc }) (undecided : pc.undecided = some fill) :
    key = pda ∧ ∃ entry, t.db pda = some entry ∧ (Awaits fill entry ∨ entry.slot ≠ 0) := by
  obtain ⟨before, running, outcome⟩ := step.undecided_before found undecided
  rcases outcome with rfl | undecided'
  · exact (followed.not_inserting running).elim
  · obtain ⟨rfl, ⟨_, decided⟩ | ⟨_, entry, held, waiting⟩⟩ :=
      followed.owner _ _ _ running (Pc.owned_of_undecided undecided')
    · simp [Pc.decided_of_undecided undecided'] at decided
    · exact ⟨rfl, coherent.undecided_step traced step keeps running undecided' held waiting⟩

theorem owner_step {key : Pubkey} (traced : Traced (prior ++ actions) s)
    (responsive : Responsive action) (keeps : Keeps pda action) (step : Step s action t)
    (found : t.calls call = some { pda := key, pc }) (owned : pc.owned = some fill) :
    key = pda ∧ ((∃ record, pc.decided = some (fill, record)) ∨
      pc.undecided = some fill ∧
        ∃ entry, t.db pda = some entry ∧ (Awaits fill entry ∨ entry.slot ≠ 0)) := by
  rcases step.owned_before found owned with ⟨before, running, owned'⟩ | ⟨fresh, _⟩
  · obtain ⟨rfl, progress⟩ := followed.owner _ _ _ running owned'
    rcases Pc.owned_cases owned with rfl | undecided | refused | decided
    · rcases step.inserting_before found with running | fresh
      · exact (followed.not_inserting running).elim
      · exact absurd fresh (coherent.created_fresh followed.known)
    · obtain ⟨_, placed⟩ := followed.undecided_step coherent traced keeps step found undecided
      exact ⟨rfl, .inr ⟨undecided, placed⟩⟩
    · simp [traced.served_step responsive step found] at refused
    · exact ⟨rfl, .inl decided⟩
  · exact absurd fresh (coherent.created_fresh followed.known)

/-- The owner decides by reading a filled entry or by merging its fetch. -/
theorem decided_step {owner : CallId} (traced : Traced (prior ++ actions) s)
    (during : Run (Fires Delegations.step) first actions s)
    (fired : Delegations.step s action = some t) (decided : Decided t fill owner record) :
    HeldFor prior pda owner record first (actions ++ [action]) t := by
  have step := step_sound fired
  have before (decided : Decided s fill owner record) :
      HeldFor prior pda owner record first (actions ++ [action]) t :=
    (followed.decided owner record decided).snoc fired
  rcases decided with ⟨key, pc, found, decided⟩ | resolved
  · cases step.origin found with
    | same running => exact before (.inl ⟨_, _, running, decided⟩)
    | started => cases decided
    | woken => cases decided
    | moved running edge reached =>
      cases edge with
      | installed held filled =>
        cases decided
        obtain ⟨rfl, _⟩ := followed.owner _ _ _ running rfl
        exact (HeldFor.here during held fun empty => absurd empty filled).snoc fired
      | @merge _ fetched =>
        cases decided
        obtain ⟨rfl, ⟨_, decided⟩ | ⟨_, entry, held, waiting⟩⟩ := followed.owner _ _ _ running rfl
        · cases decided
        · refine merged_held traced during fired running rfl held ?_ (by simp [reached, State.setEntry_db])
          rcases waiting with awaits | filled
          · exact .inr awaits.2
          · exact .inl (coherent.filled _ _ held filled)
      | release | released =>
        cases decided
        exact before (.inl ⟨_, _, running, rfl⟩)
      | fetchedAlone => cases traced.served _ _ _ running
      | _ => cases decided
  · cases step.channel fill with
    | same kept => exact before (.inr (kept ▸ resolved))
    | created _ _ held => cases held.symm.trans resolved
    | dropped _ _ _ _ outcome => cases outcome.symm.trans resolved
    | resolved running _ outcome =>
      cases outcome.symm.trans resolved
      exact before (.inl ⟨_, _, running, rfl⟩)

theorem step (traced : Traced (prior ++ actions) s)
    (during : Run (Fires Delegations.step) first actions s) (responsive : Responsive action)
    (keeps : Keeps pda action) (fired : Delegations.step s action = some t) :
    Followed prior pda first (actions ++ [action]) t fill where
  known := followed.known_step coherent (step_sound fired)
  owner _ _ _ found owned :=
    followed.owner_step coherent traced responsive keeps (step_sound fired) found owned
  decided _ _ decided := followed.decided_step coherent traced during fired decided

end Followed

namespace Observed

theorem started (fresh : t.calls call = some { pda, pc := .lookup }) :
    Observed prior pda call t [] t where
  waits _ running := by cases fresh.symm.trans running
  owns _ _ running owned := by
    cases fresh.symm.trans running
    cases owned
  refetches _ running refetch := by
    cases fresh.symm.trans running
    rcases refetch with ⟨_, same⟩ | ⟨_, same⟩ <;> cases same
  returns _ running := by cases fresh.symm.trans running

variable (observed : Observed prior pda call first actions s) (coherent : Coherent s)
variable (traced : Traced (prior ++ actions) s)
variable (during : Run (Fires Delegations.step) first actions s)
variable (fired : Delegations.step s action = some t)
include observed coherent traced during fired

theorem waits_step (coherent' : Coherent t) (traced' : Traced (prior ++ (actions ++ [action])) t)
    (responsive : Responsive action) (keeps : Keeps pda action)
    (found : t.calls call = some { pda, pc := .waiting fill }) :
    Followed prior pda first (actions ++ [action]) t fill := by
  cases (step_sound fired).origin found with
  | same running =>
    exact (observed.waits _ running).step coherent traced during responsive keeps fired
  | moved _ edge reached =>
    cases edge with
    | wait held awaits =>
      exact .of_awaits coherent' traced' (.snoc during fired) (reached ▸ held) awaits

theorem owns_step (coherent' : Coherent t) (traced' : Traced (prior ++ (actions ++ [action])) t)
    (responsive : Responsive action) (keeps : Keeps pda action)
    (found : t.calls call = some { pda, pc }) (owned : pc.owned = some fill) :
    pc = .inserting fill ∨ Followed prior pda first (actions ++ [action]) t fill := by
  have followed {pc' : Pc} (running : s.calls call = some { pda, pc := pc' })
      (owned' : pc'.owned = some fill) (past : pc' ≠ .inserting fill) :
      Followed prior pda first (actions ++ [action]) t fill := by
    rcases observed.owns _ _ running owned' with inserting | followed
    · exact absurd inserting past
    · exact followed.step coherent traced during responsive keeps fired
  have placed (held : t.db pda = some (State.placeholder fill)) :
      Followed prior pda first (actions ++ [action]) t fill :=
    .of_awaits coherent' traced' (.snoc during fired) held ⟨rfl, rfl⟩
  cases (step_sound fired).origin found with
  | same running =>
    rcases observed.owns _ _ running owned with inserting | followed
    · exact .inl inserting
    · exact .inr (followed.step coherent traced during responsive keeps fired)
  | started => cases owned
  | woken running => exact .inr (followed running owned (by simp))
  | moved running edge reached =>
    cases edge with
    | miss =>
      cases owned
      exact .inl rfl
    | insert | evict =>
      cases owned
      exact .inr (placed (by simp [reached, State.setEntry_db]))
    | unsubscribe | subscribe | served | refuse | withdraw | fetchedAlone | claim | arm | installed
    | park | wake | fetched | merge | release | released =>
      exact .inr (followed running owned (by simp))
    | _ => cases owned

omit traced during in
theorem refetches_step (keeps : Keeps pda action) (found : t.calls call = some { pda, pc })
    (refetch : (∃ slot, pc = .refetching slot) ∨ ∃ fetched, pc = .remerging fetched) :
    ∃ entry, t.db pda = some entry ∧ entry.pendingFill = none := by
  have step := step_sound fired
  have stays {pc' : Pc} (running : s.calls call = some { pda, pc := pc' })
      (refetch : (∃ slot, pc' = .refetching slot) ∨ ∃ fetched, pc' = .remerging fetched) :
      ∃ entry, t.db pda = some entry ∧ entry.pendingFill = none := by
    obtain ⟨entry, held, unowned⟩ := observed.refetches _ running refetch
    obtain ⟨after, held', unowned', _⟩ := coherent.unowned_step step keeps held unowned
    exact ⟨after, held', unowned'⟩
  cases step.origin found with
  | same running => exact stays running refetch
  | started => rcases refetch with ⟨_, same⟩ | ⟨_, same⟩ <;> cases same
  | woken => rcases refetch with ⟨_, same⟩ | ⟨_, same⟩ <;> cases same
  | moved running edge reached =>
    cases edge with
    | refetch held _ unowned => exact ⟨_, reached ▸ held, unowned⟩
    | refetched => exact stays running (.inl ⟨_, rfl⟩)
    | _ => rcases refetch with ⟨_, same⟩ | ⟨_, same⟩ <;> cases same

omit coherent in
theorem returns_step (found : t.calls call = some { pda, pc := .returned record }) :
    HeldFor prior pda call record first (actions ++ [action]) t ∨
      ∃ owner, Joined pda call owner record first (actions ++ [action]) t ∧
        HeldFor prior pda owner record first (actions ++ [action]) t := by
  cases (step_sound fired).origin found with
  | same running =>
    rcases observed.returns _ running with held | ⟨owner, ⟨fill, joined⟩, held⟩
    · exact .inl (held.snoc fired)
    · exact .inr ⟨owner, ⟨fill, joined.snoc fired⟩, held.snoc fired⟩
  | moved running edge reached =>
    cases edge with
    | hit held filled => exact .inl ((HeldFor.here during held (absurd · filled)).snoc fired)
    | @joined fill owner _ resolved =>
      have held := (observed.waits _ running).decided owner record (.inr resolved)
      have joined : Joined pda call owner record first actions s :=
        ⟨fill, .here during ⟨running, resolved⟩⟩
      obtain ⟨fill, joined⟩ := joined
      exact .inr ⟨owner, ⟨fill, joined.snoc fired⟩, held.snoc fired⟩
    | remerge =>
      obtain ⟨entry, held, unowned⟩ := observed.refetches _ running (.inr ⟨_, rfl⟩)
      exact .inl (merged_held traced during fired running rfl held (.inl unowned)
        (by simp [reached, State.setEntry_db]))
    | resolve =>
      rcases observed.owns _ _ running rfl with inserting | followed
      · cases inserting
      · exact .inl ((followed.decided call record (.inl ⟨_, _, running, rfl⟩)).snoc fired)

theorem step (coherent' : Coherent t) (traced' : Traced (prior ++ (actions ++ [action])) t)
    (responsive : Responsive action) (keeps : Keeps pda action) :
    Observed prior pda call first (actions ++ [action]) t where
  waits _ found :=
    observed.waits_step coherent traced during fired coherent' traced' responsive keeps found
  owns _ _ found owned :=
    observed.owns_step coherent traced during fired coherent' traced' responsive keeps found owned
  refetches _ found refetch := observed.refetches_step coherent fired keeps found refetch
  returns _ found := observed.returns_step traced during fired found

end Observed

theorem Observed.reached (earlier : Run (Fires Delegations.step) State.init prior first)
    (fresh : first.calls call = some { pda, pc := .lookup })
    (during : Run (Fires Delegations.step) first actions t)
    (responsive : ∀ action ∈ prior ++ actions, Responsive action)
    (kept : ∀ action ∈ actions, Keeps pda action) : Observed prior pda call first actions t := by
  induction during with
  | nil => exact .started fresh
  | @snoc actions middle action _ before last ih =>
    rw [← List.append_assoc] at responsive
    have responsive' : ∀ action ∈ prior ++ actions, Responsive action := fun action member =>
      responsive action (List.mem_append_left _ member)
    have observed := ih responsive' fun action member => kept action (by simp [member])
    have reached := earlier.append before
    have reached' : Run (Fires Delegations.step) State.init (prior ++ actions ++ [action]) _ :=
      reached.snoc last
    exact observed.step (.reached reached) (.reached reached responsive') before last
      (.reached reached') (List.append_assoc .. ▸ .reached reached' responsive)
      (responsive _ (by simp)) (kept _ (by simp))

/-- Every call that returns gives a record its entry held at some moment between
the start and the return; a record of an entry that was not filled then is given
only after the own fetch, or that of the fill owner waited on, failed. -/
theorem get_record_linearizable {last : Action} {s₀ s₁ s₂ s₃ : State}
    (before : Run (Fires step) State.init prior s₀) (starts : step s₀ (.start call pda) = some s₁)
    (during : Run (Fires step) s₁ actions s₂)
    (_live : ∃ pc, s₂.calls call = some { pda, pc } ∧ pc.ended = false)
    (ends : step s₂ last = some s₃)
    (returned : s₃.calls call = some { pda, pc := .returned record })
    (responsive : ∀ action ∈ prior ++ [.start call pda] ++ (actions ++ [last]), Responsive action)
    (kept : ∀ action ∈ actions ++ [last], Keeps pda action) :
    Met (Fires step) (fun middle => ∃ entry, middle.db pda = some entry ∧ entry.record = record ∧
      (entry.slot = 0 →
        FetchFailed (prior ++ [.start call pda] ++ (actions ++ [last])) call pda ∨
        ∃ owner, Joined pda call owner record s₁ (actions ++ [last]) s₃ ∧
          FetchFailed (prior ++ [.start call pda] ++ (actions ++ [last])) owner pda))
      s₁ (actions ++ [last]) s₃ := by
  have fresh : s₁.calls call = some { pda, pc := .lookup } := by
    cases step_sound starts with
    | start => exact State.goto_calls_self ..
    | call _ edge => cases edge
  have observed : Observed (prior ++ [.start call pda]) pda call s₁ (actions ++ [last]) s₃ :=
    .reached (before.snoc starts) fresh (during.snoc ends) responsive kept
  rcases observed.returns record returned with held | ⟨owner, joined, held⟩
  · apply held.imp
    rintro middle ⟨entry, found, same, failed⟩
    exact ⟨entry, found, same, fun empty => .inl (failed empty)⟩
  · apply held.imp
    rintro middle ⟨entry, found, same, failed⟩
    exact ⟨entry, found, same, fun empty => .inr ⟨owner, joined, failed empty⟩⟩

/-- Call 0 has claimed its fill when call 1 starts. -/
def claimedFill : List Action :=
  [.start 0 .default, .read 0, .insert 0 none, .subscribe 0, .serve 10, .claim 0, .start 1 .default]

/-- Call 1 waits on the fill of call 0, whose fetch fails in every attempt. -/
def failedFill : List Action :=
  [.read 1, .fetched 0 fun _ _ _ => .error, .merge 0, .release 0, .resolve 0, .join 1]

theorem get_record_linearizable_joined :
    ∃ s₁ s₃, Run (Fires step) State.init claimedFill s₁ ∧
      s₃.calls 1 = some { pda := .default, pc := .returned none } ∧
      Met (Fires step) (fun middle => ∃ entry, middle.db .default = some entry ∧
        entry.record = none ∧ (entry.slot = 0 →
          FetchFailed (claimedFill ++ failedFill) 1 .default ∨
          ∃ owner, Joined .default 1 owner none s₁ failedFill s₃ ∧
            FetchFailed (claimedFill ++ failedFill) owner .default))
        s₁ failedFill s₃ := by
  obtain ⟨s₀, before, rest⟩ := exists_run_of_exec
    (show (exec step State.init claimedFill.dropLast).map (fun s₀ =>
      (step s₀ (.start 1 .default)).any fun s₁ =>
        (exec step s₁ failedFill.dropLast).any fun s₂ =>
          decide (s₂.calls 1 = some { pda := .default, pc := .waiting 0 }) &&
            (step s₂ (.join 1)).any fun s₃ =>
              decide (s₃.calls 1 = some { pda := .default, pc := .returned none })) =
      some true by decide +kernel)
  simp only [Option.any_eq_true, Bool.and_eq_true, decide_eq_true_eq] at rest
  obtain ⟨s₁, starts, s₂, executed, live, s₃, ends, returned⟩ := rest
  refine ⟨s₁, s₃, before.snoc starts, returned, ?_⟩
  refine get_record_linearizable before starts (.of_exec executed) ⟨_, live, rfl⟩ ends returned ?_ ?_
  · simp [claimedFill, failedFill, Responsive, RpcResponse.Positive]
  · simp [failedFill, Keeps]

end MagicRouter.Delegations
