import Mathlib.Data.Fintype.EquivFin
import MagicRouter.Cache.Entries
import MagicRouter.Cache.Provenance

/-! What is left of the cache when the sync stream is lost. After an interruption no
record installed before it is served any more; after a termination every initialised
entry still is. -/

namespace MagicRouter.Delegations

open Library

/-- The call whose result the waiters of a fill get. -/
def Settles (s : State) (fill : FillId) (owner : CallId) : Prop :=
  s.fills fill = some (.held owner) ∨ ∃ record, s.fills fill = some (.resolved owner record)

/-- The call that settles a fill was the one to settle it before. -/
theorem Settles.before {s t : State} {action : Action} {fill : FillId} {owner : CallId}
    (coherent : Coherent s) (step : Step s action t) (known : s.fills fill ≠ none)
    (settles : Settles t fill owner) : Settles s fill owner := by
  cases step.channel fill with
  | same kept => exact settles.imp (kept ▸ ·) (kept ▸ ·)
  | created fresh => exact absurd fresh (coherent.created_fresh known)
  | dropped _ _ _ _ outcome =>
    obtain held | ⟨_, resolved⟩ := settles
    · cases held.symm.trans outcome
    · cases resolved.symm.trans outcome
  | resolved running _ outcome =>
    obtain held | ⟨_, resolved⟩ := settles
    · cases held.symm.trans outcome
    · cases resolved.symm.trans outcome
      exact .inl (coherent.owners _ _ _ _ running rfl)

theorem Custody.settles_unblocked {s : State} {fill : FillId} {owner : CallId} (custody : Custody s)
    (settles : Settles s fill owner) (pda : Pubkey) (awaited : FillId) :
    s.calls owner ≠ some { pda, pc := .waiting awaited } := by
  obtain held | ⟨record, resolved⟩ := settles
  · exact custody.unblocked _ _ held _ _
  · intro blocked
    obtain ⟨_, returned⟩ := custody.resolved _ _ _ resolved
    cases returned.symm.trans blocked

/-- Only finitely many calls have started. -/
theorem exists_unstarted {s : State} {actions : List Action}
    (run : Run (Fires step) State.init actions s) : ∃ call, s.calls call = none := by
  obtain ⟨call, fresh⟩ := Infinite.exists_notMem_finset (actions.filterMap Action.caller).toFinset
  refine ⟨call, ?_⟩
  by_contra running
  obtain ⟨⟨pda, pc⟩, found⟩ := Option.ne_none_iff_exists'.mp running
  have started := started_of_found run found
  exact fresh (List.mem_toFinset.mpr (List.mem_filterMap.mpr ⟨_, started, rfl⟩))

namespace Timed

/-- The updater takes the event in `x` and has finished with it in `y`. Clearing the
cache removes every entry it holds when the clearing starts. -/
inductive Processed (x : Timed) : AccountUpdate → Timed → Prop where
  | terminated (fired : x.step (.update .syncTerminated) = some y) : Processed x .syncTerminated y
  | interrupted (fired : x.step (.update .syncInterrupted) = some first)
      (clearing : Run (Fires step) first actions last)
      (cleared : ∀ pda, (x.state.db pda).isSome → .sweep pda ∈ actions)
      (finished : last.step .swept = some y) : Processed x .syncInterrupted y

/-- Nothing installed before the given step is left for the calls that have not
started yet. -/
structure Cleared (floor : Nat) (unstarted : CallId → Prop) (x : Timed) : Prop where
  late : floor ≤ x.clock
  entries : ∀ pda entry, x.state.db pda = some entry → entry.slot ≠ 0 → floor ≤ x.installed pda
  calls : ∀ call, unstarted call → ∀ time, x.taken call = some time → floor ≤ time
  waits : ∀ call, unstarted call → ∀ pda fill,
    x.state.calls call = some { pda, pc := .waiting fill } →
    ∀ owner, Settles x.state fill owner → ∀ time, x.taken owner = some time → floor ≤ time

variable {x y z : Timed} {action : Action} {actions : List Action} {call owner : CallId}
variable {pda : Pubkey} {fill : FillId} {entry : DelegationEntry} {time floor : Nat}

namespace Cleared

variable {unstarted : CallId → Prop} (cleared : Cleared floor unstarted x)
include cleared

theorem entries_step (fired : x.step action = some y) (found : y.state.db pda = some entry)
    (filled : entry.slot ≠ 0) : floor ≤ y.installed pda := by
  obtain ⟨_, _, installed, _⟩ := step_sound fired
  rw [installed]
  apply installs_floor cleared.late found
  intro before held same
  exact cleared.entries _ _ held (same ▸ filled)

/-- What a call has taken in this step it has taken from the cache or from another
call. -/
theorem taken_step (fired : x.step action = some y) (taken : y.taken call = some time) :
    x.taken call = some time ∨ floor ≤ time ∨
      ∃ pda fill owner record, x.state.calls call = some { pda, pc := .waiting fill } ∧
        x.state.fills fill = some (.resolved owner record) ∧ x.taken owner = some time := by
  obtain ⟨_, _, installed, _⟩ := step_sound fired
  cases takenChange fired call with
  | same kept => exact .inl (kept.symm.trans taken)
  | cached _ _ value =>
    obtain ⟨entry, found, filled, rfl⟩ := since_eq_some (value.symm.trans taken)
    exact .inr (.inl (installed ▸ cleared.entries_step fired found filled))
  | joined _ running resolved inherited =>
    exact .inr (.inr ⟨_, _, _, _, running, resolved, inherited.symm.trans taken⟩)
  | fetched nothing => cases nothing.symm.trans taken

theorem calls_step (fired : x.step action = some y) (fresh : unstarted call)
    (taken : y.taken call = some time) : floor ≤ time := by
  rcases cleared.taken_step fired taken with
    before | above | ⟨_, _, _, record, running, resolved, inherited⟩
  · exact cleared.calls _ fresh _ before
  · exact above
  · exact cleared.waits _ fresh _ _ running _ (.inr ⟨record, resolved⟩) _ inherited

theorem waits_step (dated : Dated x) (coherent : Coherent x.state) (custody : Custody x.state)
    (fired : x.step action = some y) (fresh : unstarted call)
    (found : y.state.calls call = some { pda, pc := .waiting fill })
    (settles : Settles y.state fill owner) (taken : y.taken owner = some time) : floor ≤ time := by
  obtain ⟨step, _⟩ := step_sound fired
  -- the owner is not blocked itself, so it takes nothing from another call
  have inherits (known : x.state.fills fill ≠ none)
      (before : Settles x.state fill owner → x.taken owner = some time → floor ≤ time) :
      floor ≤ time := by
    have earlier := settles.before coherent step known
    rcases cleared.taken_step fired taken with kept | above | ⟨_, _, _, _, blocked, _⟩
    · exact before earlier kept
    · exact above
    · exact absurd blocked (custody.settles_unblocked earlier _ _)
  cases step.origin found with
  | same running =>
    apply inherits (custody.waited _ _ _ running)
    intro earlier kept
    exact cleared.waits _ fresh _ _ running _ earlier _ kept
  | moved running edge =>
    cases edge with
    | wait cached awaits =>
      obtain ⟨⟨known, unresolved⟩, _⟩ := coherent.pending _ _ _ cached awaits.2
      apply inherits known
      rintro (held | ⟨record, resolved⟩) kept
      · cases (dated.pending_owner coherent custody cached awaits.2 held).symm.trans kept
      · exact absurd resolved (unresolved _ _)

theorem step (dated : Dated x) (coherent : Coherent x.state) (custody : Custody x.state)
    (fired : x.step action = some y) : Cleared floor unstarted y := by
  obtain ⟨_, clock, _⟩ := step_sound fired
  constructor
  · have late := cleared.late
    omega
  · intro pda entry found filled
    exact cleared.entries_step fired found filled
  · intro call fresh time taken
    exact cleared.calls_step fired fresh taken
  · intro call fresh pda fill found owner settles time taken
    exact cleared.waits_step dated coherent custody fired fresh found settles taken

end Cleared

/-- Taking up the loss of the stream leaves the entries as they are. -/
theorem db_of_event {event : AccountUpdate}
    (lost : event = .syncInterrupted ∨ event = .syncTerminated)
    (fired : x.step (.update event) = some y) : y.state.db = x.state.db := by
  obtain ⟨t, plain, rfl⟩ := Option.map_eq_some_iff.mp fired
  simp only [Delegations.step] at plain
  split at plain
  · rcases lost with rfl | rfl <;> cases plain <;> rfl
  · cases plain

theorem swept_of_sweep (fired : x.step (.sweep pda) = some y) : y.state.db pda = none := by
  obtain ⟨t, plain, rfl⟩ := Option.map_eq_some_iff.mp fired
  simp only [Delegations.step] at plain
  split at plain <;> cases plain
  simp [State.setEntry]

/-- While the cache is cleared, an older record is left only where the clearing has
not been yet. -/
theorem clearing_left {first : Timed} (fired : x.step (.update .syncInterrupted) = some first)
    (clearing : Run (Fires step) first actions y) :
    x.clock ≤ y.clock ∧ ∀ pda entry, y.state.db pda = some entry → entry.slot ≠ 0 →
      x.clock ≤ y.installed pda ∨ (x.state.db pda).isSome ∧ .sweep pda ∉ actions := by
  induction clearing with
  | nil =>
    obtain ⟨_, clock, _⟩ := step_sound fired
    refine ⟨by omega, ?_⟩
    intro pda entry found filled
    rw [db_of_event (.inl rfl) fired] at found
    exact .inr ⟨by simp [found], List.not_mem_nil⟩
  | @snoc earlier middle action last _ fired ih =>
    obtain ⟨late, left⟩ := ih
    obtain ⟨_, clock, installed, _⟩ := step_sound fired
    refine ⟨by omega, ?_⟩
    intro pda entry found filled
    by_cases older : (x.state.db pda).isSome ∧ .sweep pda ∉ earlier ++ [action]
    · exact .inr older
    · left
      rw [installed]
      apply installs_floor late found
      intro before held same
      rcases left _ _ held (same ▸ filled) with newer | ⟨present, unswept⟩
      · exact newer
      · -- the entry was swept by this very step, so it is not there
        have sweeps : .sweep pda ∈ earlier ++ [action] := by
          by_contra spared
          exact older ⟨present, spared⟩
        have last : .sweep pda = action := by simpa [unswept] using sweeps
        subst last
        cases (swept_of_sweep fired).symm.trans found

/-- Once the loss of the stream is processed, nothing older is left in the cache. -/
theorem Processed.entries {event : AccountUpdate} (processed : Processed x event y)
    (empty : event = .syncTerminated →
      ∀ pda entry, x.state.db pda = some entry → entry.slot = 0) :
    x.clock ≤ y.clock ∧ ∀ pda entry, y.state.db pda = some entry → entry.slot ≠ 0 →
      x.clock ≤ y.installed pda := by
  cases processed with
  | terminated fired =>
    obtain ⟨_, clock, _⟩ := step_sound fired
    refine ⟨by omega, ?_⟩
    intro pda entry found filled
    rw [db_of_event (.inr rfl) fired] at found
    exact absurd (empty rfl _ _ found) filled
  | @interrupted first actions last _ fired clearing cleared finished =>
    obtain ⟨late, left⟩ := clearing_left fired (clearing.snoc finished)
    refine ⟨late, ?_⟩
    intro pda entry found filled
    rcases left _ _ found filled with newer | ⟨present, unswept⟩
    · exact newer
    · exact absurd (List.mem_append_left _ (cleared pda present)) unswept

theorem Processed.run {event : AccountUpdate} (processed : Processed x event y) :
    ∃ actions, Run (Fires step) x actions y := by
  cases processed with
  | terminated fired => exact ⟨_, .single fired⟩
  | interrupted fired clearing _ finished => exact ⟨_, .snoc (.cons fired clearing) finished⟩

/-- The calls that start once the loss is processed find nothing older. -/
theorem Cleared.reached {event : AccountUpdate} {later : List Action}
    (earlier : Run (Fires Timed.step) Timed.init actions x) (processed : Processed x event y)
    (empty : event = .syncTerminated → ∀ pda entry, x.state.db pda = some entry → entry.slot = 0)
    (run : Run (Fires Timed.step) y later z) :
    Cleared x.clock (fun call => y.state.calls call = none) z := by
  obtain ⟨between, processing⟩ := processed.run
  obtain ⟨late, entries⟩ := processed.entries empty
  induction run with
  | nil =>
    have dated := Dated.reached (earlier.append processing)
    constructor
    · exact late
    · exact entries
    · intro call fresh time taken
      cases (dated.unstarted _ fresh).symm.trans taken
    · intro call fresh pda fill running
      cases fresh.symm.trans running
  | snoc middle last cleared =>
    have whole := (earlier.append processing).append middle
    have plain := plain_run whole
    exact cleared.step (Dated.reached whole) (Coherent.reached plain) (Custody.reached plain) last

/-- After a termination, a new call is served any entry that was initialised before. -/
theorem exists_stale_hit (run : Run (Fires step) Timed.init actions x)
    (idle : x.state.updater = .idle) (found : x.state.db pda = some entry) (filled : entry.slot ≠ 0) :
    ∃ y z call time, Processed x .syncTerminated y ∧ Run (Fires step) y [.start call pda, .read call] z ∧
      y.state.calls call = none ∧ z.state.calls call = some { pda, pc := .returned entry.record } ∧
      z.taken call = some time ∧ time < x.clock := by
  obtain ⟨call, fresh⟩ := exists_unstarted (plain_run run)
  have before : x.installed pda < x.clock := (Dated.reached run).earlier pda (by simp [found])
  let y : Timed := { x with clock := x.clock + 1 }
  let started : Timed := { y with state := x.state.goto call pda .lookup, clock := y.clock + 1 }
  let z : Timed := {
    state := started.state.goto call pda (.returned entry.record)
    clock := started.clock + 1
    installed := x.installed
    taken := Function.update x.taken call (some (x.installed pda)) }
  have terminates : x.step (.update .syncTerminated) = some y := by
    simp [step, Delegations.step, idle, State.handleUpdate, installs_of_same, takes, y]
  have starts : y.step (.start call pda) = some started := by
    have begins : Delegations.step y.state (.start call pda) = some started.state := by
      simp [Delegations.step, y, fresh, started]
    have kept : y.installs started.state = x.installed := installs_of_same rfl
    simp [step, begins, takes, kept, started, y]
  have reads : started.step (.read call) = some z := by
    have hit : Delegations.step started.state (.read call) = some z.state := by
      simp [Delegations.step, started, State.read, found, filled, z]
    have kept : started.installs z.state = x.installed := installs_of_same rfl
    have dates : started.since z.state pda = some (x.installed pda) := by
      simp [since, z, started, found, filled, ← kept]
    simp [step, hit, takes, kept, dates, started, z, y]
  refine ⟨y, z, call, _, .terminated terminates, .cons starts (.single reads), fresh, ?_, ?_, before⟩
  · exact State.goto_calls_self ..
  · simp [z]

/-- No call that starts after the loss of the stream was processed returns a record
installed before, if and only if the loss was an interruption or nothing was
initialised. -/
theorem no_stale_record_iff {event : AccountUpdate} (run : Run (Fires step) Timed.init actions x)
    (idle : x.state.updater = .idle) (lost : event = .syncInterrupted ∨ event = .syncTerminated) :
    (∀ y z later call pda record time, Processed x event y → Run (Fires step) y later z →
      y.state.calls call = none → z.state.calls call = some { pda, pc := .returned record } →
      z.taken call = some time → x.clock ≤ time) ↔
    (event = .syncInterrupted ∨ ∀ pda entry, x.state.db pda = some entry → entry.slot = 0) := by
  constructor
  · intro fresh
    rcases lost with interrupted | rfl
    · exact .inl interrupted
    · right
      intro pda entry found
      by_contra filled
      obtain ⟨y, z, call, time, processed, later, unstarted, returned, taken, before⟩ :=
        exists_stale_hit run idle found filled
      have newer := fresh y z _ call _ _ time processed later unstarted returned taken
      omega
  · intro condition y z later call pda record time processed after unstarted _ taken
    have empty : event = .syncTerminated →
        ∀ pda entry, x.state.db pda = some entry → entry.slot = 0 := by
      rintro rfl
      simpa using condition
    have cleared := Cleared.reached run processed empty after
    exact cleared.calls _ unstarted _ taken

/-- A fill at slot 12 before the termination, and a call after it. -/
theorem terminated_serves_stale :
    ¬ ∀ event actions x y z later call pda record time,
      Run (Fires step) Timed.init actions x → x.state.updater = .idle →
      event = .syncInterrupted ∨ event = .syncTerminated → Processed x event y →
      Run (Fires step) y later z → y.state.calls call = none →
      z.state.calls call = some { pda, pc := .returned record } → z.taken call = some time →
      x.clock ≤ time := by
  intro claimed
  obtain ⟨x, run, checked⟩ := exists_run_of_exec
    (show (exec step Timed.init (fillByFetch 0 .default 10
        fun _ _ _ => .account 12 (some (List.replicate 96 5)))).map (fun x =>
          x.state.updater == .idle && (x.state.db .default).any (·.slot = 12)) = some true by
      decide +kernel)
  simp only [Bool.and_eq_true, Option.any_eq_true, decide_eq_true_eq, beq_iff_eq] at checked
  obtain ⟨idle, entry, found, filled⟩ := checked
  obtain ⟨y, z, call, time, processed, later, unstarted, returned, taken, before⟩ :=
    exists_stale_hit run idle found (by omega)
  have newer := claimed .syncTerminated _ x y z _ call _ _ time run idle (.inr rfl) processed later
    unstarted returned taken
  omega

/-- The entry filled before an interruption is cleared; a later call fetches anew. -/
theorem no_stale_record_interrupted :
    ∃ x y z time, Run (Fires step) Timed.init (fillByFetch 0 .default 10
        fun _ _ _ => .account 12 (some (List.replicate 96 5))) x ∧
      Processed x .syncInterrupted y ∧
      Run (Fires step) y (fillByFetch 1 .default 20 fun _ _ _ => .missing 22) z ∧
      z.taken 1 = some time ∧ x.clock ≤ time := by
  obtain ⟨x, run, checked⟩ := exists_run_of_exec
    (show (exec step Timed.init (fillByFetch 0 .default 10
        fun _ _ _ => .account 12 (some (List.replicate 96 5)))).map (fun x =>
          x.state.updater == .idle &&
          ((x.step (.update .syncInterrupted)).bind fun first =>
            (first.step (.sweep .default)).bind fun last =>
              (last.step .swept).bind fun y =>
                (exec step y (fillByFetch 1 .default 20 fun _ _ _ => .missing 22)).map fun z =>
                  (y.state.calls 1).isNone && (z.taken 1).isSome &&
                    z.state.calls 1 == some { pda := .default, pc := .returned none }) =
            some true) = some true by decide +kernel)
  simp only [Bool.and_eq_true, decide_eq_true_eq, beq_iff_eq] at checked
  obtain ⟨idle, checked⟩ := checked
  obtain ⟨first, interrupts, checked⟩ := Option.bind_eq_some_iff.mp checked
  obtain ⟨last, sweeps, checked⟩ := Option.bind_eq_some_iff.mp checked
  obtain ⟨y, finishes, checked⟩ := Option.bind_eq_some_iff.mp checked
  obtain ⟨z, executed, checked⟩ := Option.map_eq_some_iff.mp checked
  simp only [Bool.and_eq_true, Option.isNone_iff_eq_none, Option.isSome_iff_exists, beq_iff_eq]
    at checked
  obtain ⟨⟨unstarted, time, taken⟩, returned⟩ := checked
  have only : ∀ pda, (x.state.db pda).isSome → .sweep pda ∈ [Action.sweep .default] := by
    intro pda present
    obtain ⟨entry, found⟩ := Option.isSome_iff_exists.mp present
    obtain ⟨call, started⟩ := started_of_cached (plain_run run) found
    have own : call = 0 ∧ pda = .default := by simpa [fillByFetch] using started
    simp [own.2]
  have processed : Processed x .syncInterrupted y :=
    .interrupted interrupts (.single sweeps) only finishes
  have later := Run.of_exec executed
  refine ⟨x, y, z, time, run, processed, later, taken, ?_⟩
  exact (no_stale_record_iff run idle (.inl rfl)).mpr (.inl rfl) y z _ 1 _ _ time processed later
    unstarted returned taken

end Timed

end MagicRouter.Delegations
