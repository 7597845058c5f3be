import MagicRouter.Cache.Fills

/-! Where a returned record comes from: the cache with a clock that notes when each
entry got its record and when the record a call returns was installed. -/

namespace MagicRouter.Delegations

open Library

/-- The call has the record it returns, or has ended. -/
def Pc.concluded : Pc → Bool
  | .releasing .. | .resolving .. | .returned _ | .cancelled => true
  | _ => false

theorem Edge.concluded {s shared : State} {call : CallId} {pda : Pubkey} {action : Action}
    {pc next : Pc} (edge : Edge s call pda action pc next shared) (concluded : pc.concluded = true) :
    next.concluded = true := by
  cases edge with
  | release | released | resolve | cancelOwner | cancel => rfl
  | hit | wait | refetch | miss | joined | orphaned | discard | skip | refetched | remerge | occupied
  | insert | evict | unsubscribe | subscribe | served | refuse | withdraw | lost | fetchedAlone
  | claim | displaced | arm | installed | park | wake | fetched | merge => cases concluded

/-- The cache with the number of steps taken so far, the step at which each entry got
its slot and record, and the one at which the record a call has taken from the cache
was put there. -/
structure Timed where
  state : State
  clock : Nat
  installed : Pubkey → Nat
  taken : CallId → Option Nat

namespace Timed

def init : Timed where
  state := State.init
  clock := 0
  installed _ := 0
  taken _ := none

/-- When the entry after a step got its record: an entry keeps its record while it
keeps its slot. -/
def installs (x : Timed) (t : State) (pda : Pubkey) : Nat :=
  if (t.db pda).map (·.slot) = (x.state.db pda).map (·.slot) then x.installed pda else x.clock

/-- When the record of an initialised entry was installed. -/
def since (x : Timed) (t : State) (pda : Pubkey) : Option Nat :=
  match t.db pda with
  | some entry => if entry.slot ≠ 0 then some (x.installs t pda) else none
  | none => none

/-- A call takes a record from the cache where it reads or merges, and from another
call where it joins a fill. -/
def takes (x : Timed) (t : State) : Action → CallId → Option Nat
  | .read call | .peek call | .merge call =>
    match x.state.calls call with
    | some { pda, .. } => Function.update x.taken call (x.since t pda)
    | none => x.taken
  | .join call =>
    match x.state.calls call with
    | some { pc := .waiting fill, .. } =>
      match x.state.fills fill with
      | some (.resolved owner _) => Function.update x.taken call (x.taken owner)
      | _ => x.taken
    | _ => x.taken
  | .fetched call _ => Function.update x.taken call none
  | _ => x.taken

def step (x : Timed) (action : Action) : Option Timed :=
  (Delegations.step x.state action).map fun t =>
    { state := t, clock := x.clock + 1, installed := x.installs t, taken := x.takes t action }

/-- How a call came by what it has taken. -/
inductive TakenChange (x y : Timed) (action : Action) (call : CallId) : Prop where
  | same (kept : y.taken call = x.taken call)
  | cached (reads : action = .read call ∨ action = .peek call ∨ action = .merge call)
      (running : x.state.calls call = some { pda, pc })
      (dated : y.taken call = x.since y.state pda)
  | joined (joins : action = .join call)
      (running : x.state.calls call = some { pda, pc := .waiting fill })
      (resolved : x.state.fills fill = some (.resolved owner record))
      (inherited : y.taken call = x.taken owner)
  | fetched (cleared : y.taken call = none)

/-- What the dates say in every reachable state. -/
structure Dated (x : Timed) : Prop where
  earlier : ∀ pda, x.state.db pda ≠ none → x.installed pda < x.clock
  unstarted : ∀ call, x.state.calls call = none → x.taken call = none
  concluded : ∀ call pda pc time, x.state.calls call = some { pda, pc } → x.taken call = some time →
    pc.concluded = true
  /-- what an owner took from its entry took the place of its placeholder -/
  released : ∀ call pda fill record time entry,
    x.state.calls call = some { pda, pc := .releasing fill record } → x.taken call = some time →
    x.state.db pda = some entry → entry.pendingFill ≠ some fill

variable {x y : Timed} {s t : State} {action : Action} {actions : List Action} {call owner : CallId}
variable {pda : Pubkey} {pc : Pc} {fill : FillId} {entry : DelegationEntry} {time floor : Nat}

/-- A step of the timed cache is a step of the cache. -/
theorem step_sound (fired : x.step action = some y) :
    Step x.state action y.state ∧ y.clock = x.clock + 1 ∧ y.installed = x.installs y.state ∧
      y.taken = x.takes y.state action := by
  obtain ⟨t, plain, rfl⟩ := Option.map_eq_some_iff.mp fired
  exact ⟨Delegations.step_sound plain, rfl, rfl, rfl⟩

theorem plain_run (run : Run (Fires step) x actions y) :
    Run (Fires Delegations.step) x.state actions y.state := by
  induction run with
  | nil => exact .nil
  | snoc _ last ih =>
    obtain ⟨t, plain, rfl⟩ := Option.map_eq_some_iff.mp last
    exact .snoc ih plain

/-- Every run of the cache can be timed. -/
theorem exists_timed_run (run : Run (Fires Delegations.step) x.state actions t) :
    ∃ y, Run (Fires step) x actions y ∧ y.state = t := by
  induction run with
  | nil => exact ⟨x, .nil, rfl⟩
  | @snoc _ _ action _ _ last ih =>
    obtain ⟨y, earlier, rfl⟩ := ih
    have fired : y.step action = some _ := congrArg (Option.map _) last
    exact ⟨_, .snoc earlier fired, rfl⟩

theorem takenChange (fired : x.step action = some y) (call : CallId) :
    TakenChange x y action call := by
  obtain ⟨_, _, _, taken⟩ := step_sound fired
  have reading {reader : CallId}
      (reads : action = .read reader ∨ action = .peek reader ∨ action = .merge reader)
      (value : y.taken = match x.state.calls reader with
        | some { pda, .. } => Function.update x.taken reader (x.since y.state pda)
        | none => x.taken) : TakenChange x y action call := by
    cases running : x.state.calls reader with
    | none => exact .same (by rw [value, running])
    | some record =>
      obtain ⟨pda, pc⟩ := record
      rw [running] at value
      by_cases same : call = reader
      · subst same
        exact .cached reads running (by simp [value])
      · exact .same (by simp [value, same])
  cases action with
  | read reader => exact reading (.inl rfl) taken
  | peek reader => exact reading (.inr (.inl rfl)) taken
  | merge reader => exact reading (.inr (.inr rfl)) taken
  | join joiner =>
    simp only [takes] at taken
    split at taken
    · split at taken
      · by_cases same : call = joiner
        · subst same
          exact .joined rfl ‹_› ‹_› (by simp [taken])
        · exact .same (by simp [taken, same])
      · exact .same (by rw [taken])
    · exact .same (by rw [taken])
  | fetched fetcher =>
    by_cases same : call = fetcher
    · subst same
      exact .fetched (by simp [taken, takes])
    · exact .same (by simp [taken, takes, same])
  | start | discard | insert | unsubscribe | subscribe | claim | arm | wake | release | resolve | drop
  | cancel | serve | refuse | update | notify | sweep | swept => exact .same (by rw [taken]; rfl)

/-- A record dated by the cache is that of an initialised entry. -/
theorem since_eq_some (dated : x.since t pda = some time) :
    ∃ entry, t.db pda = some entry ∧ entry.slot ≠ 0 ∧ x.installs t pda = time := by
  unfold since at dated
  split at dated
  · rename_i entry found
    split at dated
    · exact ⟨entry, found, ‹_›, Option.some.inj dated⟩
    · cases dated
  · cases dated

/-- A merge that leaves a filled entry hands out the record of it. -/
theorem merged_record {fetched : DelegationEntry} {own : Option FillId}
    (coherent : Coherent s)
    (result : (mergeFetched (s.db pda) fetched own).1 = some entry) (filled : entry.slot ≠ 0) :
    (mergeFetched (s.db pda) fetched own).2 = entry.record := by
  rcases mergeFetched_cases (s.db pda) fetched own with ⟨_, same⟩ | ⟨current, held, outcome⟩
  · simp [same] at result
  · rcases outcome with ⟨pending, waits, _, same⟩ | ⟨_, ⟨_, same⟩ | ⟨_, same⟩⟩
    · rw [same] at result
      cases result
      cases waits.symm.trans (coherent.filled _ _ held filled)
    · rw [same] at result ⊢
      cases result
      rfl
    · rw [same] at result ⊢
      cases result
      rfl

/-- Where an action that reads the cache leaves its call, when it takes something. -/
theorem concluded_of_read (coherent : Coherent s) (step : Step s action t)
    (reads : action = .read call ∨ action = .peek call ∨ action = .merge call)
    (running : s.calls call = some { pda, pc }) (found : t.db pda = some entry)
    (filled : entry.slot ≠ 0) :
    ∃ next, t.calls call = some { pda, pc := next } ∧ next.concluded = true ∧
      (next = .returned entry.record ∨ ∃ fill, next = .releasing fill entry.record) := by
  rcases reads with rfl | rfl | rfl
  · cases step with
    | call theirs edge =>
      cases edge with
      | hit held =>
        cases running.symm.trans theirs
        cases held.symm.trans found
        exact ⟨_, State.goto_calls_self .., rfl, .inl rfl⟩
      | wait held awaits =>
        cases running.symm.trans theirs
        cases held.symm.trans found
        exact absurd awaits.1 filled
      | refetch held empty =>
        cases running.symm.trans theirs
        cases held.symm.trans found
        exact absurd empty filled
      | miss vacant =>
        cases running.symm.trans theirs
        cases vacant.symm.trans found
  · cases step with
    | call theirs edge =>
      cases edge with
      | installed held =>
        cases running.symm.trans theirs
        cases held.symm.trans found
        exact ⟨_, State.goto_calls_self .., rfl, .inr ⟨_, rfl⟩⟩
      | park unfilled =>
        cases running.symm.trans theirs
        exact absurd (unfilled _ found) filled
  · cases step with
    | call theirs edge =>
      cases edge with
      | remerge =>
        cases running.symm.trans theirs
        rw [State.goto_db, State.setEntry_db, if_pos rfl] at found
        exact ⟨_, State.goto_calls_self .., rfl, .inl (by rw [merged_record coherent found filled])⟩
      | merge =>
        cases running.symm.trans theirs
        rw [State.goto_db, State.setEntry_db, if_pos rfl] at found
        exact ⟨_, State.goto_calls_self .., rfl, .inr ⟨_, by rw [merged_record coherent found filled]⟩⟩

theorem returned_of_join {record : Option ParsedDelegationRecord} (step : Step s (.join call) t)
    (running : s.calls call = some { pda, pc := .waiting fill })
    (resolved : s.fills fill = some (.resolved owner record)) :
    t.calls call = some { pda, pc := .returned record } := by
  cases step with
  | call theirs edge =>
    cases edge with
    | joined resolved' =>
      cases running.symm.trans theirs
      cases resolved.symm.trans resolved'
      exact State.goto_calls_self ..
    | orphaned dropped =>
      cases running.symm.trans theirs
      cases resolved.symm.trans dropped

namespace Dated

theorem init : Dated Timed.init where
  earlier _ found := absurd rfl found
  unstarted _ _ := rfl
  concluded _ _ _ _ running := by cases running
  released _ _ _ _ _ _ running := by cases running

variable (dated : Dated x)
include dated

theorem earlier_step (fired : x.step action = some y) (found : y.state.db pda ≠ none) :
    y.installed pda < y.clock := by
  obtain ⟨_, clock, installed, _⟩ := step_sound fired
  rw [clock, installed]
  unfold installs
  split
  · rename_i same
    have there : x.state.db pda ≠ none := by
      intro vacant
      simp only [vacant, Option.map_none, Option.map_eq_none_iff] at same
      exact found same
    have before := dated.earlier pda there
    omega
  · omega

theorem unstarted_step (fired : x.step action = some y) (fresh : y.state.calls call = none) :
    y.taken call = none := by
  obtain ⟨step, _⟩ := step_sound fired
  have running_ne {pda : Pubkey} {pc : Pc} : x.state.calls call ≠ some { pda, pc } := by
    intro running
    obtain ⟨next, after⟩ := step.calls_pda running
    cases fresh.symm.trans after
  cases takenChange fired call with
  | same kept =>
    cases before : x.state.calls call with
    | none => exact kept.trans (dated.unstarted _ before)
    | some running => exact absurd before running_ne
  | cached _ running => exact absurd running running_ne
  | joined _ running => exact absurd running running_ne
  | fetched cleared => exact cleared

theorem concluded_step (coherent : Coherent x.state) (fired : x.step action = some y)
    (found : y.state.calls call = some { pda, pc }) (taken : y.taken call = some time) :
    pc.concluded = true := by
  obtain ⟨step, _⟩ := step_sound fired
  cases takenChange fired call with
  | same kept =>
    have before : x.taken call = some time := kept.symm.trans taken
    cases step.origin found with
    | same running => exact dated.concluded _ _ _ _ running before
    | started fresh => cases (dated.unstarted _ fresh).symm.trans before
    | moved running edge => exact edge.concluded (dated.concluded _ _ _ _ running before)
    | woken running => cases dated.concluded _ _ _ _ running before
  | cached reads running value =>
    obtain ⟨entry, cached, filled, _⟩ := since_eq_some (value.symm.trans taken)
    obtain ⟨next, after, concluded, _⟩ := concluded_of_read coherent step reads running cached filled
    cases found.symm.trans after
    exact concluded
  | joined joins running resolved =>
    subst joins
    cases found.symm.trans (returned_of_join step running resolved)
    rfl
  | fetched cleared => cases cleared.symm.trans taken

theorem released_step (coherent : Coherent x.state) (fired : x.step action = some y)
    {record : Option ParsedDelegationRecord}
    (found : y.state.calls call = some { pda, pc := .releasing fill record })
    (taken : y.taken call = some time) (cached : y.state.db pda = some entry) :
    entry.pendingFill ≠ some fill := by
  obtain ⟨step, _⟩ := step_sound fired
  intro pending
  cases takenChange fired call with
  | same kept =>
    have before : x.taken call = some time := kept.symm.trans taken
    cases step.origin found with
    | same running =>
      rcases coherent.entry_step step cached with
        ⟨other, own, _, inserting, _, _, _, rfl⟩ | ⟨earlier, held, renewal⟩
      · cases pending
        cases coherent.owner_unique running rfl inserting rfl
        cases running.symm.trans inserting
      · exact dated.released _ _ _ _ _ _ running before held (renewal.pending pending)
    | moved running edge =>
      cases edge with
      | installed | merge => cases dated.concluded _ _ _ _ running before
  | cached reads running value =>
    obtain ⟨filled, held, positive, _⟩ := since_eq_some (value.symm.trans taken)
    obtain ⟨next, after⟩ := step.calls_pda running
    cases found.symm.trans after
    cases cached.symm.trans held
    cases pending.symm.trans ((coherent.step step).filled _ _ cached positive)
  | joined joins running resolved =>
    subst joins
    cases found.symm.trans (returned_of_join step running resolved)
  | fetched cleared => cases cleared.symm.trans taken

theorem step (coherent : Coherent x.state) (fired : x.step action = some y) : Dated y where
  earlier _ found := dated.earlier_step fired found
  unstarted _ fresh := dated.unstarted_step fired fresh
  concluded _ _ _ _ found taken := dated.concluded_step coherent fired found taken
  released _ _ _ _ _ _ found taken cached := dated.released_step coherent fired found taken cached

end Dated

theorem Dated.reached (run : Run (Fires Timed.step) Timed.init actions x) : Dated x := by
  induction run with
  | nil => exact .init
  | snoc earlier last dated => exact dated.step (Coherent.reached (plain_run earlier)) last

/-- The owner of a fill that is pending on an entry has taken nothing yet. -/
theorem Dated.pending_owner (dated : Dated x) (coherent : Coherent x.state)
    (custody : Custody x.state) (found : x.state.db pda = some entry)
    (pending : entry.pendingFill = some fill) (held : x.state.fills fill = some (.held owner)) :
    x.taken owner = none := by
  obtain ⟨key, pc, running, owned⟩ := custody.held _ _ held
  obtain ⟨_, served⟩ := coherent.pending _ _ _ found pending
  obtain ⟨rfl, posted⟩ := served _ _ _ running owned
  cases taken : x.taken owner with
  | none => rfl
  | some time =>
    have concluded := dated.concluded _ _ _ _ running taken
    cases pc with
    | releasing own record =>
      cases owned
      exact absurd pending (dated.released _ _ _ _ _ _ running taken found)
    | resolving | returned | cancelled => cases posted
    | _ => cases concluded

/-- An entry that gets a record gets it now. -/
theorem installs_floor (late : floor ≤ x.clock) (found : t.db pda = some entry)
    (kept : ∀ before, x.state.db pda = some before → before.slot = entry.slot →
      floor ≤ x.installed pda) : floor ≤ x.installs t pda := by
  unfold installs
  split
  · rename_i same
    rw [found] at same
    cases held : x.state.db pda with
    | none => simp [held] at same
    | some before =>
      rw [held] at same
      exact kept before held (Option.some.inj same).symm
  · exact late

theorem installs_of_same (same : t.db = x.state.db) : x.installs t = x.installed := by
  funext pda
  simp [installs, same]

end Timed

end MagicRouter.Delegations
