import MagicRouter.Cache.Staleness

/-! Where the records come from. Calls hand records to each other through the entries and
through the fills they wait for; whatever a call returns was reported by the provider or
over the stream, for the account the call was made for. -/

namespace MagicRouter.Delegations

open Library

/-- The chain reported this data of the account at the slot: a fetch made for the account
got it as its first answer that is no error, or the stream brought it. -/
inductive Reported (actions : List Action) (pda : Pubkey) (slot : Nat) (data : List UInt8) :
    Prop where
  | fetched (started : .start call pda ∈ actions) (asked : .fetched call rpc ∈ actions)
      (attempts : attempt ≤ MAX_ACCOUNT_REFETCH_ATTEMPTS)
      (failed : ∀ earlier < attempt, rpc pda least earlier = .error)
      (answered : rpc pda least attempt = .account slot (some data))
  | streamed (sent : .update (.delegated pda data slot) ∈ actions)

/-- The record was read off reported data. -/
def Attested (actions : List Action) (pda : Pubkey) (slot : Nat) (record : ParsedDelegationRecord) :
    Prop :=
  ∃ data, Reported actions pda slot data ∧ ParsedDelegationRecord.fromBytes data = some record

/-- The record a call is about to merge, to hand on or to return. -/
def Pc.record : Pc → Option ParsedDelegationRecord
  | .remerging fetched | .merging _ fetched => fetched.record
  | .releasing _ record | .resolving _ record | .returned record => record
  | _ => none

/-- Every record of the state was reported for its account. -/
structure Sourced (actions : List Action) (s : State) : Prop where
  entries : ∀ pda entry record, s.db pda = some entry → entry.record = some record →
    Attested actions pda entry.slot record
  fetched : ∀ call pda pc fetched record, s.calls call = some { pda, pc } →
    pc.fetched = some fetched → fetched.record = some record →
    Attested actions pda fetched.slot record
  calls : ∀ call pda pc record, s.calls call = some { pda, pc } → pc.record = some record →
    ∃ slot, Attested actions pda slot record
  /-- a call waits for a fill of its own account -/
  waits : ∀ call pda fill owner key pc, s.calls call = some { pda, pc := .waiting fill } →
    Settles s fill owner → s.calls owner = some { pda := key, pc } → key = pda

variable {s t : State} {action : Action} {actions : List Action} {pda key : Pubkey}
variable {call owner : CallId} {fill : FillId} {pc : Pc} {entry fetched : DelegationEntry}
variable {record : ParsedDelegationRecord} {slot : Nat} {data : List UInt8}

theorem Reported.snoc (reported : Reported actions pda slot data) :
    Reported (actions ++ [action]) pda slot data := by
  cases reported with
  | fetched started asked attempts failed answered =>
    exact .fetched (List.mem_append_left _ started) (List.mem_append_left _ asked) attempts failed
      answered
  | streamed sent => exact .streamed (List.mem_append_left _ sent)

theorem Attested.snoc (attested : Attested actions pda slot record) :
    Attested (actions ++ [action]) pda slot record := by
  obtain ⟨data, reported, parsed⟩ := attested
  exact ⟨data, reported.snoc, parsed⟩

/-- A fetch that gives a record has it from the first answer that is no error. -/
theorem fetchFrom_record {answer : Nat → RpcResponse} {left first : Nat}
    (found : (fetchFrom answer left first).record = some record) :
    ∃ attempt data, first ≤ attempt ∧ attempt < first + left ∧
      (∀ earlier, first ≤ earlier → earlier < attempt → answer earlier = .error) ∧
      answer attempt = .account (fetchFrom answer left first).slot (some data) ∧
      ParsedDelegationRecord.fromBytes data = some record := by
  induction left generalizing first with
  | zero => cases found
  | succ left ih =>
    unfold fetchFrom at found ⊢
    cases answered : answer first with
    | account slot data =>
      simp only [answered] at found ⊢
      obtain ⟨bytes, rfl, parsed⟩ := Option.bind_eq_some_iff.mp found
      exact ⟨first, bytes, Nat.le_refl _, by omega, fun _ _ _ => by omega, answered, parsed⟩
    | missing slot =>
      simp only [answered] at found
      cases found
    | error =>
      simp only [answered] at found ⊢
      obtain ⟨attempt, bytes, later, last, failed, told, parsed⟩ := ih found
      refine ⟨attempt, bytes, by omega, by omega, ?_, told, parsed⟩
      intro earlier above below
      rcases Nat.eq_or_lt_of_le above with rfl | after
      · exact answered
      · exact failed earlier after below

theorem Attested.of_fetch {rpc : Rpc} {least : Option Nat} (started : .start call pda ∈ actions)
    (found : (fetch rpc pda least).record = some record) :
    Attested (actions ++ [.fetched call rpc]) pda (fetch rpc pda least).slot record := by
  obtain ⟨attempt, data, _, last, failed, answered, parsed⟩ := fetchFrom_record found
  refine ⟨data, ?_, parsed⟩
  refine .fetched (List.mem_append_left _ started) (List.mem_append_right _ (by simp)) ?_ ?_
    answered
  · omega
  · intro earlier below
    exact failed earlier (Nat.zero_le _) below

theorem Attested.of_update {message : AccountUpdate}
    (carried : message.content = some (pda, slot, some record)) :
    Attested (actions ++ [.update message]) pda slot record := by
  cases message with
  | delegated key data slot =>
    simp only [AccountUpdate.content, Option.some.injEq, Prod.mk.injEq] at carried
    obtain ⟨rfl, rfl, parsed⟩ := carried
    exact ⟨data, .streamed (by simp), parsed⟩
  | undelegated | syncInterrupted | syncTerminated => cases carried

theorem Custody.settler (custody : Custody s) (settles : Settles s fill owner) :
    ∃ key pc, s.calls owner = some { pda := key, pc } := by
  rcases settles with held | ⟨record, resolved⟩
  · obtain ⟨key, pc, owned, _⟩ := custody.held _ _ held
    exact ⟨key, pc, owned⟩
  · obtain ⟨key, returned⟩ := custody.resolved _ _ _ resolved
    exact ⟨key, _, returned⟩

namespace Sourced

theorem init : Sourced [] State.init where
  entries _ _ _ found := by cases found
  fetched _ _ _ _ _ running := by cases running
  calls _ _ _ _ running := by cases running
  waits _ _ _ _ _ _ running := by cases running

variable (sourced : Sourced actions s)
include sourced

/-- What a merge leaves and what it hands out is the entry or what was fetched. -/
theorem merged {own : Option FillId} (running : s.calls call = some { pda, pc })
    (carries : pc.fetched = some fetched) :
    (∀ entry, (mergeFetched (s.db pda) fetched own).1 = some entry → entry.record = some record →
      Attested actions pda entry.slot record) ∧
    ((mergeFetched (s.db pda) fetched own).2 = some record →
      ∃ slot, Attested actions pda slot record) := by
  have carried := sourced.fetched call pda pc fetched record running carries
  rcases mergeFetched_cases (s.db pda) fetched own with ⟨_, same⟩ | ⟨current, found, outcome⟩
  · rw [same]
    exact ⟨nofun, fun given => ⟨_, carried given⟩⟩
  · have held := sourced.entries pda current record found
    rcases outcome with ⟨_, _, _, same⟩ | ⟨_, ⟨_, same⟩ | ⟨_, same⟩⟩ <;> rw [same]
    · exact ⟨fun _ kept => Option.some.inj kept ▸ held, fun given => ⟨_, carried given⟩⟩
    · exact ⟨fun _ kept => Option.some.inj kept ▸ carried, fun given => ⟨_, carried given⟩⟩
    · exact ⟨fun _ kept => Option.some.inj kept ▸ held, fun given => ⟨_, held given⟩⟩

theorem entries_step (step : Step s action t) (found : t.db pda = some entry)
    (given : entry.record = some record) : Attested (actions ++ [action]) pda entry.slot record := by
  have changed := step.entryChange pda
  rw [found] at changed
  generalize after : some entry = present at changed
  cases changed with
  | same => exact (sourced.entries _ _ _ after.symm given).snoc
  | placed =>
    cases after
    cases given
  | evicted | removed | swept => cases after
  | claimed _ held | released _ held =>
    cases after
    exact (sourced.entries _ _ _ held given).snoc
  | remerged running | merged running =>
    exact ((sourced.merged running rfl).1 _ after.symm given).snoc
  | installed carried =>
    cases after
    cases given
    exact .of_update carried

theorem fetched_step (run : Run (Fires Delegations.step) State.init actions s)
    (step : Step s action t) (found : t.calls call = some { pda, pc })
    (carries : pc.fetched = some fetched) (given : fetched.record = some record) :
    Attested (actions ++ [action]) pda fetched.slot record := by
  rcases step.fetched_before found carries with before | ⟨rpc, _, least, rfl, running, _, rfl⟩
  · exact (sourced.fetched _ _ _ _ _ before carries given).snoc
  · exact .of_fetch (started_of_found run running) given

/-- What a call returns it has read, fetched, or got from a call for the same account. -/
theorem calls_step (run : Run (Fires Delegations.step) State.init actions s)
    (step : Step s action t) (found : t.calls call = some { pda, pc })
    (given : pc.record = some record) : ∃ slot, Attested (actions ++ [action]) pda slot record := by
  suffices attested : (∃ slot, Attested actions pda slot record) ∨
      ∃ slot, Attested (actions ++ [action]) pda slot record by
    rcases attested with ⟨slot, before⟩ | now
    · exact ⟨slot, before.snoc⟩
    · exact now
  cases step.origin found with
  | same running => exact .inl (sourced.calls _ _ _ _ running given)
  | started | woken => cases given
  | moved running edge =>
    cases edge with
    | hit held | installed held => exact .inl ⟨_, sourced.entries _ _ _ held given⟩
    | @joined fill owner result resolved =>
      obtain ⟨key, returned⟩ := (Custody.reached run).resolved _ _ _ resolved
      cases sourced.waits _ _ _ _ _ _ running (.inr ⟨_, resolved⟩) returned
      exact .inl (sourced.calls _ _ _ _ returned given)
    | refetched | fetchedAlone | fetched =>
      exact .inr ⟨_, .of_fetch (started_of_found run running) given⟩
    | remerge | merge => exact .inl ((sourced.merged running rfl).2 given)
    | release | released | resolve => exact .inl (sourced.calls _ _ _ _ running given)
    | _ => cases given

theorem waits_step (run : Run (Fires Delegations.step) State.init actions s)
    (step : Step s action t) (found : t.calls call = some { pda, pc := .waiting fill })
    (settles : Settles t fill owner) (theirs : t.calls owner = some { pda := key, pc }) :
    key = pda := by
  have coherent := Coherent.reached run
  have custody := Custody.reached run
  cases step.origin found with
  | same running =>
    have settled := settles.before coherent step (custody.waited _ _ _ running)
    obtain ⟨own, before, owned⟩ := custody.settler settled
    obtain ⟨_, after⟩ := step.calls_pda owned
    cases theirs.symm.trans after
    exact sourced.waits _ _ _ _ _ _ running settled owned
  | moved running edge =>
    cases edge with
    | wait held awaits =>
      obtain ⟨⟨known, unresolved⟩, served⟩ := coherent.pending _ _ _ held awaits.2
      rcases settles.before coherent step known with owns | ⟨_, resolved⟩
      · obtain ⟨own, before, owned, holds⟩ := custody.held _ _ owns
        obtain ⟨_, after⟩ := step.calls_pda owned
        cases theirs.symm.trans after
        exact (served _ _ _ owned holds).1
      · exact absurd resolved (unresolved _ _)

theorem step (run : Run (Fires Delegations.step) State.init actions s) (step : Step s action t) :
    Sourced (actions ++ [action]) t where
  entries _ _ _ found given := sourced.entries_step step found given
  fetched _ _ _ _ _ found carries given := sourced.fetched_step run step found carries given
  calls _ _ _ _ found given := sourced.calls_step run step found given
  waits _ _ _ _ _ _ found settles theirs := sourced.waits_step run step found settles theirs

end Sourced

theorem Sourced.reached (run : Run (Fires Delegations.step) State.init actions s) :
    Sourced actions s := by
  induction run with
  | nil => exact init
  | snoc before last ih => exact ih.step before (step_sound last)

/-- In every run, every cached record was reported for the account it is cached for, at
the slot of its entry, and every record a call returns was reported for its account. -/
theorem records_reported (run : Run (Fires step) State.init actions s) :
    (∀ pda entry record, s.db pda = some entry → entry.record = some record →
      Attested actions pda entry.slot record) ∧
    (∀ call pda record, s.calls call = some { pda, pc := .returned (some record) } →
      ∃ slot, Attested actions pda slot record) := by
  have sourced := Sourced.reached run
  refine ⟨sourced.entries, ?_⟩
  intro call pda record returned
  exact sourced.calls call pda _ record returned rfl

/-- Call 1 waits for the fill of call 0, whose fetch succeeds in the second attempt. -/
def sharedFill : List Action :=
  [.start 0 .default, .read 0, .insert 0 none, .subscribe 0, .serve 10, .claim 0, .start 1 .default,
    .read 1, .fetched 0 fun _ _ attempt =>
      if attempt = 0 then .error else .account 12 (some (List.replicate 96 9)),
    .merge 0, .release 0, .resolve 0, .join 1]

theorem records_reported_shared :
    ∃ s record slot, Run (Fires step) State.init sharedFill s ∧
      s.calls 1 = some { pda := .default, pc := .returned (some record) } ∧
      record.authority = .repeating 9 ∧ Attested sharedFill .default slot record := by
  obtain ⟨s, run, checked⟩ := exists_run_of_exec
    (show (exec step State.init sharedFill).map (fun s =>
        decide (s.calls 1 = some { pda := .default, pc := .returned (some {
          authority := .repeating 9, owner := .repeating 9, delegationSlot := 0x0909090909090909,
          lamports := 0x0909090909090909 }) })) = some true by decide +kernel)
  have returned := of_decide_eq_true checked
  obtain ⟨slot, attested⟩ := (records_reported run).2 _ _ _ returned
  exact ⟨s, _, slot, run, returned, rfl, attested⟩

end MagicRouter.Delegations
