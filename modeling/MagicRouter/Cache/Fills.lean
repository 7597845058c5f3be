import Mathlib.Logic.Relation
import MagicRouter.Cache.DelegationsInvariant

/-! Waiting on fills under every interleaving: who holds the sender a blocked call
waits for, and whether the owner of a fill learns that the stream has filled its
entry. -/

namespace MagicRouter.Delegations

open Library

/-- One call is blocked on the result of a fill whose sender the other holds. -/
def WaitsFor (s : State) (call owner : CallId) : Prop :=
  ∃ pda fill, s.calls call = some { pda, pc := .waiting fill } ∧ s.fills fill = some (.held owner)

/-- A stream update took the fill out of the entry, and `since` led on to `w`. -/
inductive Taken (pda : Pubkey) (fill : FillId) (since : List Action) (w : State) : Prop where
  | intro (earlier : Run (Fires step) State.init actions s) (held : s.db pda = some entry)
      (pending : entry.pendingFill = some fill) (fired : step s (.update message) = some t)
      (installed : t.db pda = some after) (free : after.pendingFill = none)
      (rest : Run (Fires step) t since w)

/-- The entry was evicted or cleared, and the call read the cache afterwards. -/
def MissedEntry (pda : Pubkey) (call : CallId) (since : List Action) : Prop :=
  ∃ sooner lost later, since = sooner ++ lost :: later ∧ ¬ Keeps pda lost ∧ .peek call ∈ later

variable {s t shared : State} {action : Action} {call owner : CallId} {pda own : Pubkey}
variable {pc next : Pc} {fill other : FillId} {entry after : DelegationEntry}
variable {actions since : List Action}

/-- A call gives up the sender it holds only by using or dropping it. -/
theorem Edge.owned_kept (edge : Edge s call pda action pc next shared)
    (owned : pc.owned = some fill) :
    next.owned = some fill ∨ shared.fills fill = some .dropped ∨
      ∃ record, shared.fills fill = some (.resolved call record) := by
  cases edge with
  | hit | wait | refetch | miss | joined | orphaned | discard | skip | refetched | remerge =>
    cases owned
  | insert | evict | unsubscribe | subscribe | served | refuse | withdraw | fetchedAlone | claim
  | arm | installed | park | wake | fetched | merge | release | released => exact .inl owned
  | occupied | lost | displaced =>
    cases owned
    exact .inr (.inl (by simp [State.setFill_fills]))
  | resolve =>
    cases owned
    exact .inr (.inr ⟨_, (State.setFill_fills ..).trans (if_pos rfl)⟩)
  | cancelOwner owned' =>
    cases owned.symm.trans owned'
    exact .inr (.inl (by simp [State.setFill_fills]))
  | cancel unowned => cases owned.symm.trans unowned

theorem Edge.updater (edge : Edge s call pda action pc next shared) :
    shared.updater = s.updater := by
  cases edge <;> rfl

theorem ChannelChange.known (change : ChannelChange s t fill) (known : s.fills fill ≠ none) :
    t.fills fill ≠ none := by
  cases change with
  | same kept => rwa [kept]
  | created _ _ held => simp [held]
  | dropped _ _ _ _ outcome => simp [outcome]
  | resolved _ _ outcome => simp [outcome]

/-- Every held sender is held by a running call, a used one was used by a call that
has returned, and every call waits on a fill that exists. -/
structure Custody (s : State) : Prop where
  held : ∀ fill owner, s.fills fill = some (.held owner) →
    ∃ pda pc, s.calls owner = some { pda, pc } ∧ pc.owned = some fill
  resolved : ∀ fill owner record, s.fills fill = some (.resolved owner record) →
    ∃ pda, s.calls owner = some { pda, pc := .returned record }
  waited : ∀ call pda fill, s.calls call = some { pda, pc := .waiting fill } → s.fills fill ≠ none

namespace Custody

theorem init : Custody State.init where
  held _ _ held := by cases held
  resolved _ _ _ resolved := by cases resolved
  waited _ _ _ running := by cases running

variable (custody : Custody s)
include custody

theorem held_step (step : Step s action t) (held : t.fills fill = some (.held owner)) :
    ∃ pda pc, t.calls owner = some { pda, pc } ∧ pc.owned = some fill := by
  cases step.channel fill with
  | created _ _ holds running =>
    cases held.symm.trans holds
    exact ⟨_, _, running, rfl⟩
  | dropped _ _ _ _ outcome => cases held.symm.trans outcome
  | resolved _ _ outcome => cases held.symm.trans outcome
  | same kept =>
    obtain ⟨pda, pc, running, owned⟩ := custody.held _ _ (kept.symm.trans held)
    cases step.fate running with
    | same running' => exact ⟨_, _, running', owned⟩
    | woken running' => exact ⟨_, _, running', owned⟩
    | moved edge reached =>
      subst reached
      rcases edge.owned_kept owned with kept | dropped | ⟨record, resolved⟩
      · exact ⟨_, _, State.goto_calls_self .., kept⟩
      · cases held.symm.trans dropped
      · cases held.symm.trans resolved

theorem resolved_step {record : Option ParsedDelegationRecord} (step : Step s action t)
    (resolved : t.fills fill = some (.resolved owner record)) :
    ∃ pda, t.calls owner = some { pda, pc := .returned record } := by
  cases step.channel fill with
  | created _ _ holds => cases resolved.symm.trans holds
  | dropped _ _ _ _ outcome => cases resolved.symm.trans outcome
  | resolved _ moved outcome =>
    cases resolved.symm.trans outcome
    exact ⟨_, moved⟩
  | same kept =>
    obtain ⟨pda, running⟩ := custody.resolved _ _ _ (kept.symm.trans resolved)
    cases step.fate running with
    | same running' => exact ⟨_, running'⟩
    | moved edge =>
      cases edge with
      | cancelOwner owned => cases owned
      | cancel _ live => cases live

theorem waited_step (coherent : Coherent s) (step : Step s action t)
    (found : t.calls call = some { pda, pc := .waiting fill }) : t.fills fill ≠ none := by
  cases step.origin found with
  | same running => exact (step.channel fill).known (custody.waited _ _ _ running)
  | moved running edge reached =>
    cases edge with
    | wait found awaits =>
      have known := (coherent.pending _ _ _ found awaits.2).1.1
      rwa [reached]

end Custody

theorem Custody.reached (run : Run (Fires step) State.init actions s) : Custody s := by
  induction run with
  | nil => exact .init
  | snoc earlier last custody =>
    have coherent := Coherent.reached earlier
    have taken := step_sound last
    constructor
    · intro fill owner held
      exact custody.held_step taken held
    · intro fill owner record resolved
      exact custody.resolved_step taken resolved
    · intro call pda fill found
      exact custody.waited_step coherent taken found

/-- A call that holds a sender is not blocked on a fill. -/
theorem Custody.unblocked (custody : Custody s) (call : CallId) (fill : FillId)
    (held : s.fills fill = some (.held call)) (pda : Pubkey) (awaited : FillId) :
    s.calls call ≠ some { pda, pc := .waiting awaited } := by
  intro blocked
  obtain ⟨_, _, running, owned⟩ := custody.held _ _ held
  cases running.symm.trans blocked
  cases owned

theorem Custody.waitsFor_acyclic (custody : Custody s) (call : CallId) :
    ¬ Relation.TransGen (WaitsFor s) call call := by
  intro cycle
  obtain ⟨owner, ⟨_, _, _, held⟩, rest⟩ := Relation.TransGen.head'_iff.mp cycle
  have waits : ∃ further, WaitsFor s owner further := by
    rcases rest.cases_head with rfl | ⟨further, waits, _⟩
    · exact Relation.TransGen.head'_iff.mp cycle |>.imp fun _ first => first.1
    · exact ⟨further, waits⟩
  obtain ⟨_, _, _, blocked, _⟩ := waits
  exact custody.unblocked _ _ held _ _ blocked

theorem Call.wake_unwoken {asleep : Call} {slot : Option Nat}
    (woken : asleep.wake fill = { pda, pc := .filling other slot (.parked false) }) :
    asleep = { pda, pc := .filling other slot (.parked false) } ∧ fill ≠ other := by
  unfold Call.wake at woken
  split at woken
  · split at woken <;> cases woken
    simp_all
  · split at woken
    · cases woken
    · rename_i different
      subst woken
      simp_all [eq_comm]
  · rename_i unparked
    subst woken
    exact absurd rfl (unparked _ _ _)

/-- Once the stream has taken a fill: the entry stays filled while nobody evicts or
clears it, and an owner parked without a wake-up is about to get it or has read the
cache after the entry was lost. -/
structure Noticed (pda : Pubkey) (fill : FillId) (since : List Action) (s : State) : Prop where
  known : s.fills fill ≠ none
  serves : ∀ call own pc, s.calls call = some { pda := own, pc } → pc.owned = some fill → own = pda
  filled : (∀ action ∈ since, Keeps pda action) →
    ∃ entry, s.db pda = some entry ∧ entry.pendingFill = none ∧ entry.slot ≠ 0
  woken : ∀ call slot, s.calls call = some { pda, pc := .filling fill slot (.parked false) } →
    s.updater = .notifying fill ∨ MissedEntry pda call since

theorem MissedEntry.snoc (missed : MissedEntry pda call since) (action : Action) :
    MissedEntry pda call (since ++ [action]) := by
  obtain ⟨sooner, lost, later, rfl, loses, peeks⟩ := missed
  exact ⟨sooner, lost, later ++ [action], by simp, loses, List.mem_append_left _ peeks⟩

namespace Noticed

/-- The update that takes the fill is about to notify its owner. -/
theorem of_taken {message : AccountUpdate} (coherent : Coherent s) (step : Step s (.update message) t)
    (held : s.db pda = some entry) (pending : entry.pendingFill = some fill)
    (installed : t.db pda = some after) (free : after.pendingFill = none) :
    Noticed pda fill [] t := by
  have kept {other : Option DelegationEntry} (same : s.db pda = other) (found : other = some after) :
      False := by
    cases (held.symm.trans same).trans found
    cases pending.symm.trans free
  cases step with
  | ignore => exact (kept rfl installed).elim
  | interrupt => exact (kept rfl installed).elim
  | call _ edge => cases edge
  | install idle carried found newer =>
    rename_i key slot record current
    by_cases same : pda = key
    · subst same
      cases held.symm.trans found
      obtain ⟨⟨known, _⟩, served⟩ := coherent.pending _ _ _ held pending
      constructor
      · exact known
      · intro call own pc running owned
        exact (served _ _ _ running owned).1
      · intro _
        have placed : ((s.setEntry pda (some
            { slot, record, pendingMinContextSlot := none, pendingFill := none })).db pda) =
            some { slot, record, pendingMinContextSlot := none, pendingFill := none } := by
          simp [State.setEntry]
        exact ⟨_, placed, rfl, by dsimp only; omega⟩
      · intro call slot running
        left
        simp [pending]
    · exact (kept rfl (by simpa [State.setEntry, same] using installed)).elim

variable (noticed : Noticed pda fill since s)
include noticed

/-- An owner that parks unwoken has read the cache after the entry was lost. -/
theorem missed (unfilled : ∀ entry, s.db pda = some entry → entry.slot = 0) :
    MissedEntry pda call (since ++ [.peek call]) := by
  by_contra kept
  have stays : ∀ action ∈ since, Keeps pda action := by
    intro action member
    by_contra loses
    obtain ⟨sooner, later, rfl⟩ := List.append_of_mem member
    exact kept ⟨sooner, action, later ++ [.peek call], by simp, loses, by simp⟩
  obtain ⟨entry, found, _, filled⟩ := noticed.filled stays
  exact filled (unfilled entry found)

theorem woken_step {slot : Option Nat} (step : Step s action t)
    (running : t.calls call = some { pda, pc := .filling fill slot (.parked false) }) :
    t.updater = .notifying fill ∨ MissedEntry pda call (since ++ [action]) := by
  -- an owner that was parked before keeps its pending notification or its lost entry
  have parked (before : s.calls call = some { pda, pc := .filling fill slot (.parked false) })
      (same : s.updater = .notifying fill → t.updater = .notifying fill) :
      t.updater = .notifying fill ∨ MissedEntry pda call (since ++ [action]) := by
    rcases noticed.woken _ _ before with notifying | missed
    · exact .inl (same notifying)
    · exact .inr (missed.snoc action)
  cases step with
  | start =>
    rcases State.goto_found running with ⟨_, moved⟩ | ⟨_, before⟩
    · cases moved
    · exact parked before id
  | call theirs edge =>
    rcases State.goto_found running with ⟨rfl, moved⟩ | ⟨_, before⟩
    · cases moved
      cases edge with
      | park unfilled => exact .inr (noticed.missed unfilled)
    · exact parked (edge.calls ▸ before) fun notifying => edge.updater.trans notifying
  | serveUnsubscribe | serveCancelled => exact parked running id
  | notify taken =>
    obtain ⟨asleep, before, wakes⟩ := Option.map_eq_some_iff.mp running
    obtain ⟨rfl, different⟩ := Call.wake_unwoken wakes
    apply parked before
    intro notifying
    cases taken.symm.trans notifying
    exact absurd rfl different
  | install idle | ignore idle | interrupt idle =>
    exact parked running fun notifying => by cases idle.symm.trans notifying
  | sweep clearing | swept clearing =>
    exact parked running fun notifying => by cases clearing.symm.trans notifying

theorem step (coherent : Coherent s) (step : Step s action t) :
    Noticed pda fill (since ++ [action]) t := by
  constructor
  · exact (step.channel fill).known noticed.known
  · intro call own pc running owned
    rcases step.owned_before running owned with ⟨pc', before, owned'⟩ | ⟨fresh, _⟩
    · exact noticed.serves _ _ _ before owned'
    · exact absurd fresh (coherent.created_fresh noticed.known)
  · intro kept
    have earlier : ∀ action ∈ since, Keeps pda action := by
      intro action member
      exact kept action (by simp [member])
    obtain ⟨entry, found, free, filled⟩ := noticed.filled earlier
    obtain ⟨after, found', free', newer⟩ := coherent.unowned_step step (kept _ (by simp)) found free
    exact ⟨after, found', free', by omega⟩
  · intro call slot running
    exact noticed.woken_step step running

end Noticed

theorem Taken.noticed (taken : Taken pda fill since s) : Noticed pda fill since s := by
  obtain ⟨earlier, held, pending, fired, installed, free, rest⟩ := taken
  have first := Noticed.of_taken (Coherent.reached earlier) (step_sound fired) held pending installed free
  have reached := Run.snoc earlier fired
  clear held pending installed free fired earlier
  induction rest with
  | nil => exact first
  | snoc middle last noticed =>
    exact noticed.step (Coherent.reached (reached.append middle)) (step_sound last)

/-- No stuck fill. A blocked call waits on a fill that a live call will settle or
that is settled; waits form no cycle; and once the stream has taken a fill, its
owner is not left parked, unless its notification is just being sent or the entry
was evicted or cleared before the owner read it. -/
theorem fills_never_stuck (run : Run (Fires step) State.init actions s) :
    (∀ call pda fill, s.calls call = some { pda, pc := .waiting fill } →
      (∃ owner own pc, s.fills fill = some (.held owner) ∧ s.calls owner = some { pda := own, pc } ∧
        pc.owned = some fill ∧ pc.ended = false) ∨
      (∃ owner record, s.fills fill = some (.resolved owner record)) ∨
      s.fills fill = some .dropped) ∧
    (∀ call fill, s.fills fill = some (.held call) →
      ∀ pda awaited, s.calls call ≠ some { pda, pc := .waiting awaited }) ∧
    (∀ call, ¬ Relation.TransGen (WaitsFor s) call call) ∧
    (∀ pda fill since, Taken pda fill since s →
      ∀ owner own slot woken,
        s.calls owner = some { pda := own, pc := .filling fill slot (.parked woken) } →
        woken = true ∨ s.updater = .notifying fill ∨ MissedEntry pda owner since) := by
  have custody := Custody.reached run
  refine ⟨?_, custody.unblocked, custody.waitsFor_acyclic, ?_⟩
  · intro call pda fill blocked
    have known := custody.waited _ _ _ blocked
    cases status : s.fills fill with
    | none => exact absurd status known
    | some status' =>
      cases status' with
      | held owner =>
        obtain ⟨own, pc, running, owned⟩ := custody.held _ _ status
        have live : pc.ended = false := by
          cases pc with
          | returned | cancelled => cases owned
          | _ => rfl
        exact .inl ⟨owner, own, pc, rfl, running, owned, live⟩
      | resolved owner record => exact .inr (.inl ⟨owner, record, rfl⟩)
      | dropped => exact .inr (.inr rfl)
  · intro pda fill since taken owner own slot woken running
    cases woken with
    | true => exact .inl rfl
    | false =>
      have noticed := taken.noticed
      cases noticed.serves _ _ _ running rfl
      exact .inr (noticed.woken _ _ running)

/-- Call 0 waits in `stream_fill` and call 1 on its result when the stream update
comes. -/
def parkedOwner : List Action :=
  [.start 0 .default, .read 0, .insert 0 none, .subscribe 0, .serve 10, .claim 0, .arm 0, .peek 0,
    .start 1 .default, .read 1]

theorem fills_never_stuck_parked :
    ∃ s slot woken, Run (Fires step) State.init
        (parkedOwner ++ [.update (.undelegated .default 12), .notify]) s ∧
      s.calls 0 = some { pda := .default, pc := .filling 0 slot (.parked woken) } ∧
      woken = true ∧ s.calls 1 = some { pda := .default, pc := .waiting 0 } ∧
      ∃ owner own pc, s.fills 0 = some (.held owner) ∧ s.calls owner = some { pda := own, pc } ∧
        pc.owned = some 0 := by
  obtain ⟨before, first, checked⟩ := exists_run_of_exec
    (show (exec step State.init parkedOwner).map (fun before =>
        (before.db .default).any (·.pendingFill = some 0) &&
          ((step before (.update (.undelegated .default 12))).bind fun taken =>
            (step taken .notify).map fun s =>
              (taken.db .default).any (·.pendingFill = none) && s.updater == .idle &&
              s.calls 0 == some { pda := .default, pc := .filling 0 (some 2) (.parked true) } &&
              s.calls 1 == some { pda := .default, pc := .waiting 0 } &&
              s.fills 0 == some (.held 0)) = some true) = some true by decide +kernel)
  simp only [Bool.and_eq_true, Option.any_eq_true, decide_eq_true_eq] at checked
  obtain ⟨⟨entry, held, pending⟩, later⟩ := checked
  obtain ⟨taken, fired, later⟩ := Option.bind_eq_some_iff.mp later
  obtain ⟨s, notified, later⟩ := Option.map_eq_some_iff.mp later
  simp only [Bool.and_eq_true, Option.any_eq_true, decide_eq_true_eq, beq_iff_eq] at later
  obtain ⟨⟨⟨⟨⟨after, installed, free⟩, idle⟩, parked⟩, blocked⟩, heldBy⟩ := later
  have run := Run.snoc (Run.snoc first fired) notified
  rw [List.append_assoc] at run
  obtain ⟨settled, _, _, noticed⟩ := fills_never_stuck run
  refine ⟨s, _, _, run, parked, ?_, blocked, ?_⟩
  · have since := Taken.intro first held pending fired installed free (.single notified)
    rcases noticed _ _ _ since _ _ _ _ parked with woken | notifying | missed
    · exact woken
    · cases idle.symm.trans notifying
    · obtain ⟨sooner, lost, later, same, loses, _⟩ := missed
      have member : lost ∈ [Action.notify] := by simp [same]
      cases List.mem_singleton.mp member
      exact absurd trivial loses
  · rcases settled _ _ _ blocked with ⟨owner, own, pc, holds, running, owned, _⟩ | ⟨_, _, done⟩ | lost
    · exact ⟨owner, own, pc, holds, running, owned⟩
    · cases heldBy.symm.trans done
    · cases heldBy.symm.trans lost

/-- The stream update takes the fill of call 0 and notifies it before it has armed;
then the cache is cleared, and call 0 parks. -/
def clearedBeforeRead : List Action :=
  [.start 0 .default, .read 0, .insert 0 none, .subscribe 0, .serve 10, .claim 0]

theorem clearedBeforeRead_unwoken :
    ¬ ∀ pda fill since s, Taken pda fill since s → s.updater = .idle →
      ∀ owner own slot woken,
        s.calls owner = some { pda := own, pc := .filling fill slot (.parked woken) } →
        woken = true := by
  intro claimed
  obtain ⟨before, first, checked⟩ := exists_run_of_exec
    (show (exec step State.init clearedBeforeRead).map (fun before =>
        (before.db .default).any (·.pendingFill = some 0) &&
          ((step before (.update (.undelegated .default 12))).bind fun taken =>
            (exec step taken [.notify, .update .syncInterrupted, .sweep .default, .swept, .arm 0,
                .peek 0]).map fun s =>
              (taken.db .default).any (·.pendingFill = none) && s.updater == .idle &&
              s.calls 0 == some { pda := .default, pc := .filling 0 (some 2) (.parked false) }) =
            some true) = some true by decide +kernel)
  simp only [Bool.and_eq_true, Option.any_eq_true, decide_eq_true_eq] at checked
  obtain ⟨⟨entry, held, pending⟩, later⟩ := checked
  obtain ⟨taken, fired, later⟩ := Option.bind_eq_some_iff.mp later
  obtain ⟨s, executed, later⟩ := Option.map_eq_some_iff.mp later
  simp only [Bool.and_eq_true, Option.any_eq_true, decide_eq_true_eq, beq_iff_eq] at later
  obtain ⟨⟨⟨after, installed, free⟩, idle⟩, parked⟩ := later
  have since := Taken.intro first held pending fired installed free (.of_exec executed)
  cases claimed _ _ _ _ since idle _ _ _ _ parked

end MagicRouter.Delegations
