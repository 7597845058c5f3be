import MagicRouter.Cache.Coverage

/-! Which stream subscriptions have a cache entry. The entry of an evicted account is gone
before its unsubscription is sent, and the placeholder a call subscribes for can be evicted
before the subscription is: in between, a call under way has to see to the account. -/

namespace MagicRouter.Delegations

open Library

/-- What the syncer is subscribed to after a request. -/
def SyncRequest.handled (subscribed : Finset Pubkey) : SyncRequest → Finset Pubkey
  | .subscribe pda _ => Insert.insert pda subscribed
  | .unsubscribe pda => subscribed.erase pda

/-- What the syncer will be subscribed to once it has handled its queue. -/
def State.wanted (s : State) : Finset Pubkey :=
  s.requests.foldl SyncRequest.handled s.subscribed

/-- The account whose eviction the call has yet to report. -/
def Pc.victim : Pc → Option Pubkey
  | .evicting _ victim => some victim
  | _ => none

/-- The call looks after its own account: it is about to read the entry, to put the
placeholder, or to check that the placeholder is there. -/
def Pc.attending : Pc → Bool
  | .lookup | .discarding _ | .inserting _ | .evicting _ _ | .subscribing _ | .awaiting _
  | .claiming _ _ => true
  | _ => false

/-- The call is about to cache the account or to give up its subscription. -/
def Call.Attends (running : Call) (pda : Pubkey) : Prop :=
  running.pc.victim = some pda ∨ running.pda = pda ∧ running.pc.attending = true

def Attended (s : State) (pda : Pubkey) : Prop :=
  ∃ call running, s.calls call = some running ∧ running.Attends pda

/-- The assumptions on the environment: the syncer keeps running, its stream is not
interrupted, and a call is cancelled only while the accounts it sees to are cached or
not wanted. -/
def Tidy (s : State) : Action → Prop
  | .cancel call => ∀ running pda, s.calls call = some running → running.Attends pda →
      pda ∈ s.wanted → s.db pda ≠ none
  | .refuse _ | .update .syncInterrupted => False
  | _ => True

/-- Everything the syncer is asked to watch is cached or looked after. -/
structure Kept (s : State) : Prop where
  connected : ∀ call pda fill, s.calls call ≠ some { pda, pc := .dropping fill }
  uninterrupted : s.updater ≠ .clearing
  kept : ∀ pda ∈ s.wanted, s.db pda ≠ none ∨ Attended s pda

variable {s t : State} {action : Action} {actions : List Action} {pda : Pubkey} {call : CallId}

theorem State.wanted_enqueue (s : State) (request : SyncRequest) :
    (s.enqueue request).wanted = request.handled s.wanted := by
  simp [wanted, List.foldl_append]

/-- Handling the oldest request changes nothing in what is wanted. -/
theorem State.wanted_served {request : SyncRequest} {rest : List SyncRequest}
    (oldest : s.requests = request :: rest) :
    rest.foldl SyncRequest.handled (request.handled s.subscribed) = s.wanted := by
  rw [wanted, oldest, List.foldl_cons]

theorem State.wanted_goto (s : State) (call : CallId) (own : Pubkey) (pc : Pc) :
    (s.goto call own pc).wanted = s.wanted := rfl

/-- An account becomes wanted by the subscription of a call only. -/
theorem Step.wanted (step : Step s action t) (connected : ∀ call, action ≠ .refuse call)
    (wanted : pda ∈ t.wanted) :
    pda ∈ s.wanted ∨ ∃ call fill, t.calls call = some { pda, pc := .awaiting fill } := by
  cases step with
  | serveUnsubscribe oldest | serveCancelled oldest =>
    exact .inl (State.wanted_served oldest ▸ wanted)
  | call running edge =>
    cases edge with
    | served oldest => exact .inl (State.wanted_served oldest ▸ wanted)
    | unsubscribe =>
      rw [State.wanted_goto, State.wanted_enqueue] at wanted
      exact .inl (Finset.mem_of_mem_erase wanted)
    | subscribe =>
      rw [State.wanted_goto, State.wanted_enqueue] at wanted
      rcases Finset.mem_insert.mp wanted with rfl | before
      · exact .inr ⟨_, _, State.goto_calls_self ..⟩
      · exact .inl before
    | refuse => exact absurd rfl (connected _)
    | _ => exact .inl wanted
  | _ => exact .inl wanted

/-- An entry leaves the cache by an eviction or a discarded placeholder, which leave a call
to see to the account, because a subscription was refused, or in a sweep. -/
theorem Step.lost (step : Step s action t) (found : s.db pda ≠ none) (lost : t.db pda = none) :
    Attended t pda ∨ (∃ call fill, s.calls call = some { pda, pc := .dropping fill }) ∨
      s.updater = .clearing := by
  cases step with
  | start | serveUnsubscribe | serveCancelled | ignore | interrupt | notify | swept =>
    exact absurd lost found
  | sweep clearing => exact .inr (.inr clearing)
  | install =>
    rw [State.setEntry_db] at lost
    split at lost
    · cases lost
    · exact absurd lost found
  | call running edge =>
    cases edge with
    | discard =>
      rw [State.goto_db, State.setEntry_db] at lost
      split at lost
      · subst pda
        exact .inl ⟨_, _, State.goto_calls_self .., .inr ⟨rfl, rfl⟩⟩
      · exact absurd lost found
    | withdraw =>
      rw [State.goto_db, State.setEntry_db] at lost
      split at lost
      · subst pda
        exact .inr (.inl ⟨_, _, running⟩)
      · exact absurd lost found
    | evict =>
      rw [State.goto_db, State.setEntry_db, State.setEntry_db] at lost
      split at lost
      · cases lost
      · split at lost
        · subst pda
          exact .inl ⟨_, _, State.goto_calls_self .., .inl rfl⟩
        · exact absurd lost found
    | insert | claim | release =>
      rw [State.goto_db, State.setEntry_db] at lost
      split at lost
      · cases lost
      · exact absurd lost found
    | remerge | merge =>
      rw [State.goto_db, State.setEntry_db] at lost
      split at lost
      · subst pda
        exact absurd (mergeFetched_eq_none.mp lost) found
      · exact absurd lost found
    | _ => exact absurd lost found

namespace Kept

theorem init : Kept State.init where
  connected _ _ _ := nofun
  uninterrupted := nofun
  kept _ member := absurd member (Finset.notMem_empty _)

theorem connected_step (kept : Kept s) (tidy : Tidy s action) (step : Step s action t)
    (call : CallId) (pda : Pubkey) (fill : FillId) :
    t.calls call ≠ some { pda, pc := .dropping fill } := by
  intro running
  cases step.origin running with
  | same before => exact kept.connected _ _ _ before
  | moved _ edge =>
    cases edge with
    | refuse => exact tidy

theorem uninterrupted_step (kept : Kept s) (tidy : Tidy s action) (step : Step s action t) :
    t.updater ≠ .clearing := by
  cases step with
  | @install _ _ _ entry =>
    cases entry.pendingFill with
    | none => exact nofun
    | some fill => exact nofun
  | interrupt => exact tidy.elim
  | notify | swept => exact nofun
  | start | serveUnsubscribe | serveCancelled | ignore | sweep => exact kept.uninterrupted
  | call _ edge => cases edge <;> exact kept.uninterrupted

/-- A wanted account that a call sees to is cached after the step or seen to still. -/
theorem attended_step (tidy : Tidy s action) (step : Step s action t) (wanted : pda ∈ t.wanted)
    (attended : Attended s pda) : t.db pda ≠ none ∨ Attended t pda := by
  obtain ⟨call, ⟨own, pc⟩, running, attends⟩ := attended
  cases step.fate running with
  | same after => exact .inr ⟨call, _, after, attends⟩
  | woken => rcases attends with evicted | ⟨_, attending⟩ <;> contradiction
  | moved edge reached =>
    subst reached
    cases edge with
    | cancelOwner | cancel => exact .inl (tidy _ pda running attends wanted)
    | refuse => exact tidy.elim
    | unsubscribe =>
      rcases attends with evicted | ⟨rfl, _⟩
      · cases evicted
        rw [State.wanted_goto, State.wanted_enqueue] at wanted
        exact absurd wanted (Finset.notMem_erase _ _)
      · exact .inr ⟨call, _, State.goto_calls_self .., .inr ⟨rfl, rfl⟩⟩
    | hit found | wait found | refetch found =>
      rcases attends with evicted | ⟨rfl, _⟩
      · cases evicted
      · exact .inl (by simp [found])
    | claim =>
      rcases attends with evicted | ⟨rfl, _⟩
      · cases evicted
      · exact .inl (by simp [State.setEntry_db])
    | miss | discard | skip | occupied | insert | evict | subscribe | served | displaced =>
      rcases attends with evicted | ⟨rfl, _⟩
      · cases evicted
      · exact .inr ⟨call, _, State.goto_calls_self .., .inr ⟨rfl, rfl⟩⟩
    | _ => rcases attends with evicted | ⟨_, attending⟩ <;> contradiction

theorem step (kept : Kept s) (tidy : Tidy s action) (step : Step s action t) : Kept t where
  connected := kept.connected_step tidy step
  uninterrupted := kept.uninterrupted_step tidy step
  kept := by
    intro pda wanted
    have connected (call : CallId) : action ≠ .refuse call := by
      intro refused
      subst refused
      exact tidy
    rcases step.wanted connected wanted with before | ⟨call, fill, awaiting⟩
    · rcases kept.kept pda before with found | attended
      · by_cases lost : t.db pda = none
        · rcases step.lost found lost with attended | ⟨_, _, dropping⟩ | clearing
          · exact .inr attended
          · exact absurd dropping (kept.connected _ _ _)
          · exact absurd clearing kept.uninterrupted
        · exact .inl lost
      · exact attended_step tidy step wanted attended
    · exact .inr ⟨call, _, awaiting, .inr ⟨rfl, rfl⟩⟩

theorem reached (run : Run (Guarded Tidy (Fires Delegations.step)) State.init actions s) : Kept s :=
  run.invariant init fun _ _ _ kept fired => kept.step fired.1 (step_sound fired.2)

end Kept

theorem Call.ended_of_attends {running : Call} (attends : running.Attends pda) :
    running.pc.ended = false := by
  obtain ⟨own, pc⟩ := running
  rcases attends with evicted | ⟨_, attending⟩
  · cases pc <;> first | rfl | cases evicted
  · cases pc <;> first | rfl | cases attending

theorem Quiet.not_attended (quiet : Quiet s) : ¬ Attended s pda := by
  intro ⟨call, running, found, attends⟩
  have ended := quiet call running found
  rw [running.ended_of_attends attends] at ended
  cases ended

/-- No subscription outlives its entry: in every run in which the syncer keeps running and
each call is cancelled only while what it sees to is cached or not wanted, the syncer is
subscribed to cached accounts only, once all calls have ended and all requests are handled. -/
theorem subscribed_cached (run : Run (Guarded Tidy (Fires step)) State.init actions s)
    (quiet : Quiet s) (handled : s.requests = []) (subscribed : pda ∈ s.subscribed) :
    ∃ entry, s.db pda = some entry := by
  have wanted : pda ∈ s.wanted := by
    rw [State.wanted, handled]
    exact subscribed
  rcases (Kept.reached run).kept pda wanted with found | attended
  · exact Option.ne_none_iff_exists'.mp found
  · exact absurd attended quiet.not_attended

/-- Call 1 evicts the entry of call 0 and is cancelled before its own subscription is
handled; call 2, which waited for it, discards the placeholder and fills the entry. -/
def inheritedFill : List Action :=
  fillByFetch 0 .default 10 absentAtThirty ++
    [.start 1 (.repeating 1), .read 1, .insert 1 (some .default), .unsubscribe 1, .serve 21,
      .subscribe 1, .start 2 (.repeating 1), .read 2, .cancel 1, .join 2, .discard 2, .serve 22,
      .read 2, .insert 2 none, .subscribe 2, .serve 23, .claim 2, .fetched 2 absentAtThirty,
      .merge 2, .release 2, .resolve 2]

theorem subscribed_cached_inherited :
    ∃ s entry, Run (Guarded Tidy (Fires step)) State.init inheritedFill s ∧
      s.subscribed = {.repeating 1} ∧ s.db .default = none ∧
      s.db (.repeating 1) = some entry := by
  let tidy (s : State) (action : Action) : Bool := match action with
    | .cancel call => (s.calls call).all fun running =>
        running.pc.victim.isNone && (s.db running.pda).isSome
    | .refuse _ | .update .syncInterrupted => false
    | _ => true
  obtain ⟨s, checkedRun, checked⟩ := exists_run_of_exec
    (show (exec (checkedStep tidy step) State.init inheritedFill).map (fun s =>
        s.requests.isEmpty && decide (s.subscribed = {.repeating 1}) && (s.db .default).isNone &&
          [0, 1, 2].all fun call => (s.calls call).all (·.pc.ended)) = some true by decide +kernel)
  have run : Run (Guarded Tidy (Fires step)) State.init inheritedFill s := by
    apply checkedRun.guarded_of_checked
    intro s action allowed
    cases action with
    | cancel call =>
      intro running pda found attends _
      simp only [tidy, found, Option.all_some, Bool.and_eq_true, Option.isNone_iff_eq_none]
        at allowed
      rcases attends with evicted | ⟨rfl, _⟩
      · cases allowed.1.symm.trans evicted
      · exact Option.isSome_iff_ne_none.mp allowed.2
    | refuse => cases allowed
    | update message =>
      cases message with
      | syncInterrupted => cases allowed
      | _ => trivial
    | _ => trivial
  simp only [Bool.and_eq_true, List.isEmpty_iff, decide_eq_true_eq, Option.isNone_iff_eq_none]
    at checked
  obtain ⟨⟨⟨handled, subscribed⟩, vacant⟩, ended⟩ := checked
  have quiet : Quiet s := .of_started run.unguarded (by decide) ended
  obtain ⟨entry, found⟩ := subscribed_cached run quiet handled
    (show Pubkey.repeating 1 ∈ s.subscribed by simp [subscribed])
  exact ⟨s, entry, run, subscribed, vacant, found⟩

-- a call cancelled with its eviction unreported leaves the subscription behind
example : (exec step State.init (fillByFetch 0 .default 10 absentAtThirty ++
    [.start 1 (.repeating 1), .read 1, .insert 1 (some .default), .cancel 1])).map (fun s =>
      decide (.default ∈ s.subscribed) && (s.db .default).isNone && s.requests.isEmpty) =
    some true := by
  decide +kernel

end MagicRouter.Delegations
