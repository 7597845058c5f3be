import MagicRouter.Library.Possible
import MagicRouter.Cache.Coverage
import MagicRouter.Cache.Fills

/-! No `get_record` call is ever stuck: from every reachable state the calls under way
can be completed by their own steps and those of the syncer, whatever the provider
answers and whichever entries are evicted. -/

namespace MagicRouter.Delegations

open Library

/-- What calls meet with: the answers of the provider, the slots that subscriptions are
answered with, and the entry that the cache evicts for another, if it has to. -/
structure World where
  rpc : Rpc
  slot : Nat
  victim : State → Pubkey → Option Pubkey
  evictable : ∀ s pda other, victim s pda = some other → other ≠ pda ∧ (s.db other).isSome

/-- The step is one of the call, other than its cancellation, or of the syncer. -/
inductive Moves (world : World) (call : CallId) (s : State) : Action → Prop where
  | serve : Moves world call s (.serve world.slot)
  | read : Moves world call s (.read call)
  | join : Moves world call s (.join call)
  | discard : Moves world call s (.discard call)
  | fetched : Moves world call s (.fetched call world.rpc)
  | merge : Moves world call s (.merge call)
  | insert (running : s.calls call = some { pda, pc := .inserting fill }) :
      Moves world call s (.insert call (world.victim s pda))
  | unsubscribe : Moves world call s (.unsubscribe call)
  | subscribe : Moves world call s (.subscribe call)
  | claim : Moves world call s (.claim call)
  | release : Moves world call s (.release call)
  | resolve : Moves world call s (.resolve call)
  | drop : Moves world call s (.drop call)

/-- Nothing moves but one call and the syncer. -/
abbrev Alone (world : World) (call : CallId) : State → Action → State → Prop :=
  Guarded (Moves world call) (Fires step)

/-- Nothing moves but calls that were started and the syncer. -/
abbrev Inner (world : World) : State → Action → State → Prop :=
  Guarded (fun s action => ∃ call, Moves world call s action) (Fires step)

variable {world : World} {s t shared : State} {action : Action} {actions : List Action}
variable {call owner : CallId} {pda : Pubkey} {pc next : Pc} {fill : FillId}

theorem Pc.ended_of_owned (owned : pc.owned = some fill) : pc.ended = false := by
  cases pc <;> first | rfl | cases owned

/-- A call takes every edge that leaves the point it is at. -/
theorem Edge.fires (edge : Edge s call pda action pc next shared)
    (running : s.calls call = some { pda, pc }) :
    step s action = some (shared.goto call pda next) := by
  cases edge with
  | hit found filled => simp [step, running, State.read, found, filled]
  | wait found awaits => simp [step, running, State.read, found, awaits.1, awaits.2]
  | refetch found empty unowned => simp [step, running, State.read, found, empty, unowned]
  | miss vacant => simp [step, running, State.read, vacant, State.goto, State.setFill]
  | joined resolved => simp [step, running, resolved]
  | orphaned dropped => simp [step, running, dropped]
  | discard found awaits => simp [step, running, State.removePendingFill, found, awaits]
  | skip gone =>
    cases found : s.db pda with
    | none => simp [step, running, State.removePendingFill, found]
    | some entry => simp [step, running, State.removePendingFill, found, gone entry found]
  | refetched | remerge | unsubscribe | subscribe | refuse | fetchedAlone | arm | wake | fetched
  | merge | resolve => simp [step, running]
  | occupied found => simp [step, running, State.insert, found, State.retry]
  | insert vacant => simp [step, running, State.insert, vacant]
  | evict vacant other present => simp [step, running, State.insert, vacant, other, present]
  | served oldest => simp [step, running, State.serve, oldest]
  | withdraw found awaits => simp [step, running, State.removePendingFill, found, awaits]
  | lost gone =>
    cases found : s.db pda with
    | none => simp [step, running, State.removePendingFill, found, State.retry]
    | some entry =>
      simp [step, running, State.removePendingFill, found, gone entry found, State.retry]
  | claim found awaits => simp [step, running, State.claim, found, awaits]
  | displaced gone =>
    cases found : s.db pda with
    | none => simp [step, running, State.claim, found, State.retry]
    | some entry => simp [step, running, State.claim, found, gone entry found, State.retry]
  | installed found filled => simp [step, running, State.peek, found, filled]
  | park unfilled =>
    cases found : s.db pda with
    | none => simp [step, running, State.peek, found]
    | some entry => simp [step, running, State.peek, found, unfilled entry found]
  | release found pending => simp [step, running, State.release, found, pending]
  | released gone =>
    cases found : s.db pda with
    | none => simp [step, running, State.release, found]
    | some entry => simp [step, running, State.release, found, gone entry found]
  | cancelOwner owned => simp [step, running, Pc.ended_of_owned owned, owned]
  | cancel unowned live => simp [step, running, live, unowned]

/-- The request of a call that waits for its subscription is on its way to the syncer. -/
def Listed (s : State) : Prop :=
  ∀ call pda fill, s.calls call = some { pda, pc := .awaiting fill } →
    .subscribe pda call ∈ s.requests

/-- A request stays queued as long as its call waits. -/
theorem Step.request_kept (step : Step s action t)
    (running : s.calls call = some { pda, pc := .awaiting fill })
    (still : t.calls call = some { pda, pc := .awaiting fill })
    (listed : .subscribe pda call ∈ s.requests) : .subscribe pda call ∈ t.requests := by
  cases step with
  | serveUnsubscribe oldest =>
    rw [oldest] at listed
    rcases List.mem_cons.mp listed with same | later
    · cases same
    · exact later
  | serveCancelled oldest gone =>
    rw [oldest] at listed
    rcases List.mem_cons.mp listed with same | later
    · cases same
      exact absurd running (gone _ _)
    · exact later
  | call moving edge =>
    cases edge with
    | served oldest =>
      rw [oldest] at listed
      rcases List.mem_cons.mp listed with same | later
      · cases same
        rw [State.goto_calls_self] at still
        cases still
      · exact later
    | refuse =>
      refine List.mem_filter.mpr ⟨listed, decide_eq_true ?_⟩
      intro same
      cases same
      rw [State.goto_calls_self] at still
      cases still
    | unsubscribe | subscribe => exact List.mem_append_left _ listed
    | _ => exact listed
  | _ => exact listed

theorem Listed.reached (run : Run (Fires step) State.init actions s) : Listed s := by
  induction run with
  | nil =>
    intro call pda fill running
    cases running
  | snoc earlier last ih =>
    intro call pda fill found
    have taken := step_sound last
    cases taken.origin found with
    | same running => exact taken.request_kept running found (ih _ _ _ running)
    | moved running edge reached =>
      cases edge with
      | subscribe =>
        subst reached
        simp

/-- The entry is the placeholder of the fill. -/
def Serves (s : State) (pda : Pubkey) (fill : FillId) : Prop :=
  ∃ entry, s.db pda = some entry ∧ Awaits fill entry

/-- The call has returned, and with it those that wait for its fill. -/
def Finished (pda : Pubkey) (call : CallId) (fill : FillId) (s : State) : Prop :=
  ∃ record, s.calls call = some { pda, pc := .returned record } ∧
    s.fills fill = some (.resolved call record)

/-- The call has given its fill up and goes round the loop again. -/
def Retried (pda : Pubkey) (call : CallId) (fill : FillId) (s : State) : Prop :=
  s.calls call = some { pda, pc := .lookup } ∧ s.fills fill = some .dropped

/-- A call can be brought along an edge. -/
theorem move {goal : State → Prop} (running : s.calls call = some { pda, pc })
    (edge : Edge s call pda action pc next shared) (moves : Moves world call s action)
    (rest : Possible (Alone world call) goal (shared.goto call pda next)) :
    Possible (Alone world call) goal s :=
  .step ⟨moves, edge.fires running⟩ rest

section Owner

theorem finish_resolving {record : Option ParsedDelegationRecord}
    (running : s.calls call = some { pda, pc := .resolving fill record }) :
    Possible (Alone world call) (Finished pda call fill) s := by
  refine move running .resolve .resolve (.now ⟨record, State.goto_calls_self .., ?_⟩)
  exact (State.setFill_fills ..).trans (if_pos rfl)

theorem finish_releasing {record : Option ParsedDelegationRecord}
    (running : s.calls call = some { pda, pc := .releasing fill record }) :
    Possible (Alone world call) (Finished pda call fill) s := by
  by_cases pending : ∃ entry, s.db pda = some entry ∧ entry.pendingFill = some fill
  · obtain ⟨entry, found, pending⟩ := pending
    exact move running (.release found pending) .release (finish_resolving (State.goto_calls_self ..))
  · have gone : ∀ entry, s.db pda = some entry → entry.pendingFill ≠ some fill :=
      fun entry found same => pending ⟨entry, found, same⟩
    exact move running (.released gone) .release (finish_resolving (State.goto_calls_self ..))

theorem finish_merging {fetched : DelegationEntry}
    (running : s.calls call = some { pda, pc := .merging fill fetched }) :
    Possible (Alone world call) (Finished pda call fill) s :=
  move running .merge .merge (finish_releasing (State.goto_calls_self ..))

theorem finish_filling {slot : Option Nat} {stream : StreamFill}
    (running : s.calls call = some { pda, pc := .filling fill slot stream }) :
    Possible (Alone world call) (Finished pda call fill) s :=
  move running .fetched .fetched (finish_merging (State.goto_calls_self ..))

theorem finish_fetchingAlone (running : s.calls call = some { pda, pc := .fetchingAlone fill }) :
    Possible (Alone world call) (Finished pda call fill) s :=
  move running .fetchedAlone .fetched (finish_resolving (State.goto_calls_self ..))

/-- The owner of a fill can be brought to its end: it returns, or it has lost its
placeholder and tries again. -/
def Concludes (world : World) (s : State) (pda : Pubkey) (call : CallId) (fill : FillId) : Prop :=
  Possible (Alone world call) (Finished pda call fill) s ∨
    ¬ Serves s pda fill ∧ Possible (Alone world call) (Retried pda call fill) s

theorem Concludes.before (run : Run (Alone world call) s actions t) (same : t.db pda = s.db pda)
    (rest : Concludes world t pda call fill) : Concludes world s pda call fill := by
  rcases rest with finishes | ⟨lost, retries⟩
  · exact .inl (finishes.before run)
  · refine .inr ⟨?_, retries.before run⟩
    rwa [Serves, same] at lost

theorem conclude_claiming {slot : Option Nat}
    (running : s.calls call = some { pda, pc := .claiming fill slot }) :
    Concludes world s pda call fill := by
  by_cases serves : Serves s pda fill
  · obtain ⟨entry, found, awaits⟩ := serves
    exact .inl (move running (.claim found awaits) .claim
      (finish_filling (State.goto_calls_self ..)))
  · have gone : ∀ entry, s.db pda = some entry → ¬ Awaits fill entry :=
      fun entry found awaits => serves ⟨entry, found, awaits⟩
    refine .inr ⟨serves, move running (.displaced gone) .claim (.now ⟨State.goto_calls_self .., ?_⟩)⟩
    exact (State.setFill_fills ..).trans (if_pos rfl)

theorem conclude_dropping (running : s.calls call = some { pda, pc := .dropping fill }) :
    Concludes world s pda call fill := by
  by_cases serves : Serves s pda fill
  · obtain ⟨entry, found, awaits⟩ := serves
    exact .inl (move running (.withdraw found awaits) .drop
      (finish_fetchingAlone (State.goto_calls_self ..)))
  · have gone : ∀ entry, s.db pda = some entry → ¬ Awaits fill entry :=
      fun entry found awaits => serves ⟨entry, found, awaits⟩
    refine .inr ⟨serves, move running (.lost gone) .drop (.now ⟨State.goto_calls_self .., ?_⟩)⟩
    exact (State.setFill_fills ..).trans (if_pos rfl)

/-- The syncer handles its oldest request: the call goes on, or is left to wait. -/
theorem serve_oldest {first : SyncRequest} {rest : List SyncRequest} (slot : Nat)
    (running : s.calls call = some { pda, pc := .awaiting fill })
    (queue : s.requests = first :: rest) :
    ∃ t, step s (.serve slot) = some t ∧ t.db = s.db ∧
      ((∃ slot, t.calls call = some { pda, pc := .claiming fill slot }) ∨
        first ≠ .subscribe pda call ∧ t.requests = rest ∧
          t.calls call = some { pda, pc := .awaiting fill }) := by
  cases first with
  | unsubscribe other =>
    exact ⟨{ s with subscribed := s.subscribed.erase other, requests := rest },
      by simp [step, State.serve, queue], rfl, .inr ⟨by simp, rfl, running⟩⟩
  | subscribe other caller =>
    by_cases mine : caller = call
    · subst mine
      exact ⟨_, (Edge.served queue).fires running, rfl, .inl ⟨_, State.goto_calls_self ..⟩⟩
    · have another : SyncRequest.subscribe other caller ≠ .subscribe pda call := by
        intro same
        cases same
        exact mine rfl
      by_cases waits : ∃ key own, s.calls caller = some { pda := key, pc := .awaiting own }
      · obtain ⟨key, own, waiting⟩ := waits
        refine ⟨_, (Edge.served queue).fires waiting, rfl, .inr ⟨another, rfl, ?_⟩⟩
        rw [State.goto_calls, if_neg (Ne.symm mine)]
        exact running
      · refine ⟨{ s with subscribed := Insert.insert other s.subscribed, requests := rest }, ?_, rfl,
          .inr ⟨another, rfl, running⟩⟩
        simp only [step, State.serve, queue]
        split
        · rename_i found
          exact absurd ⟨_, _, found⟩ waits
        · rfl

/-- The syncer can be brought to answer a subscription. -/
theorem conclude_awaiting (running : s.calls call = some { pda, pc := .awaiting fill })
    (listed : .subscribe pda call ∈ s.requests) : Concludes world s pda call fill := by
  -- by induction on the requests before it
  generalize queue : s.requests = requests at listed
  induction requests generalizing s with
  | nil => cases listed
  | cons first rest ih =>
    obtain ⟨t, fired, same, outcome⟩ := serve_oldest world.slot running queue
    refine .before (.single ⟨.serve, fired⟩) (congrFun same pda) ?_
    rcases outcome with ⟨slot, claiming⟩ | ⟨other, left, waiting⟩
    · exact conclude_claiming claiming
    · rcases List.mem_cons.mp listed with here | later
      · exact absurd here.symm other
      · exact ih waiting left later

theorem conclude_subscribing (running : s.calls call = some { pda, pc := .subscribing fill }) :
    Concludes world s pda call fill := by
  refine .before (.single ⟨.subscribe, Edge.subscribe.fires running⟩) rfl ?_
  exact conclude_awaiting (State.goto_calls_self ..) (by simp)

theorem conclude_evicting {victim : Pubkey}
    (running : s.calls call = some { pda, pc := .evicting fill victim }) :
    Concludes world s pda call fill := by
  refine .before (.single ⟨.unsubscribe, Edge.unsubscribe.fires running⟩) rfl ?_
  exact conclude_subscribing (State.goto_calls_self ..)

/-- A call that finds its entry vacant can fill it, whatever is evicted for it. -/
theorem finish_inserting (running : s.calls call = some { pda, pc := .inserting fill })
    (vacant : s.db pda = none) : Possible (Alone world call) (Finished pda call fill) s := by
  -- it puts its placeholder, which nobody then takes away
  have served (t : State) (pc : Pc) (subscribes : Concludes world (t.goto call pda pc) pda call fill)
      (put : t.db pda = some (State.placeholder fill)) :
      Possible (Alone world call) (Finished pda call fill) (t.goto call pda pc) := by
    rcases subscribes with finishes | ⟨lost, _⟩
    · exact finishes
    · exact absurd ⟨_, put, rfl, rfl⟩ lost
  have moves : Moves world call s (.insert call (world.victim s pda)) := .insert running
  cases chosen : world.victim s pda with
  | none =>
    rw [chosen] at moves
    refine move running (.insert vacant) moves (served _ _ ?_ ?_)
    · exact conclude_subscribing (State.goto_calls_self ..)
    · exact (State.setEntry_db ..).trans (if_pos rfl)
  | some victim =>
    rw [chosen] at moves
    obtain ⟨other, present⟩ := world.evictable s pda victim chosen
    refine move running (.evict vacant other present) moves (served _ _ ?_ ?_)
    · exact conclude_evicting (State.goto_calls_self ..)
    · exact (State.setEntry_db ..).trans (if_pos rfl)

theorem conclude_inserting (running : s.calls call = some { pda, pc := .inserting fill }) :
    Possible (Alone world call) (Finished pda call fill) s ∨
      Possible (Alone world call) (Retried pda call fill) s := by
  cases found : s.db pda with
  | none => exact .inl (finish_inserting running found)
  | some entry =>
    refine .inr (move running (.occupied found) (.insert running)
      (.now ⟨State.goto_calls_self .., ?_⟩))
    exact (State.setFill_fills ..).trans (if_pos rfl)

/-- The owner of a fill can be brought to its end, and to one in which those that wait
for it get the result if its placeholder is still there. -/
theorem owner_concludes (listed : Listed s) (running : s.calls call = some { pda, pc })
    (owned : pc.owned = some fill) :
    Possible (Alone world call) (Finished pda call fill) s ∨
      ¬ (pc.posted = some fill ∧ Serves s pda fill) ∧
        Possible (Alone world call) (Retried pda call fill) s := by
  have posted (concludes : Concludes world s pda call fill) :
      Possible (Alone world call) (Finished pda call fill) s ∨
        ¬ (pc.posted = some fill ∧ Serves s pda fill) ∧
          Possible (Alone world call) (Retried pda call fill) s := by
    rcases concludes with finishes | ⟨lost, retries⟩
    · exact .inl finishes
    · exact .inr ⟨fun both => lost both.2, retries⟩
  cases pc with
  | inserting own =>
    cases owned
    rcases conclude_inserting running with finishes | retries
    · exact .inl finishes
    · refine .inr ⟨?_, retries⟩
      rintro ⟨posted, _⟩
      cases posted
  | evicting own victim =>
    cases owned
    exact posted (conclude_evicting running)
  | subscribing own =>
    cases owned
    exact posted (conclude_subscribing running)
  | awaiting own =>
    cases owned
    exact posted (conclude_awaiting running (listed _ _ _ running))
  | dropping own =>
    cases owned
    exact posted (conclude_dropping running)
  | claiming own slot =>
    cases owned
    exact posted (conclude_claiming running)
  | fetchingAlone own =>
    cases owned
    exact .inl (finish_fetchingAlone running)
  | filling own slot stream =>
    cases owned
    exact .inl (finish_filling running)
  | merging own fetched =>
    cases owned
    exact .inl (finish_merging running)
  | releasing own record =>
    cases owned
    exact .inl (finish_releasing running)
  | resolving own record =>
    cases owned
    exact .inl (finish_resolving running)
  | _ => cases owned

end Owner

/-- The call has returned. -/
def Returned (pda : Pubkey) (call : CallId) (s : State) : Prop :=
  ∃ record, s.calls call = some { pda, pc := .returned record }

theorem Inner.of_alone (run : Run (Alone world call) s actions t) : Run (Inner world) s actions t :=
  run.mono fun _ _ _ moved => ⟨⟨call, moved.1⟩, moved.2⟩

/-- What one call can do alone, calls can do together. -/
theorem together {goal goal' : State → Prop} (alone : Possible (Alone world call) goal s)
    (weaker : ∀ t, goal t → goal' t) : Possible (Inner world) goal' s :=
  alone.mono (fun _ _ _ moved => ⟨⟨call, moved.1⟩, moved.2⟩) weaker

/-- A call that waits for a fill is left alone by the others. -/
theorem waiting_kept (run : Run (Alone world owner) s actions t) (other : call ≠ owner)
    (running : s.calls call = some { pda, pc := .waiting fill }) :
    t.calls call = some { pda, pc := .waiting fill } := by
  induction run with
  | nil => exact running
  | snoc _ last ih =>
    obtain ⟨moves, fired⟩ := last
    cases (step_sound fired).fate ih with
    | same after => exact after
    | moved edge _ =>
      cases edge with
      | joined | orphaned =>
        cases moves
        exact absurd rfl other
      | cancelOwner owned => cases owned
      | cancel => cases moves

theorem return_vacant (running : s.calls call = some { pda, pc := .lookup })
    (vacant : s.db pda = none) : Possible (Inner world) (Returned pda call) s := by
  have finishes : Possible (Alone world call) (Finished pda call s.nextFill) s :=
    move running (.miss vacant) .read (finish_inserting (State.goto_calls_self ..) vacant)
  refine together finishes ?_
  rintro t ⟨record, returned, _⟩
  exact ⟨record, returned⟩

/-- A call that waits for a fill can return once the owner is through with it. -/
theorem return_joined {record : Option ParsedDelegationRecord}
    (running : s.calls call = some { pda, pc := .waiting fill })
    (resolved : s.fills fill = some (.resolved owner record)) :
    Possible (Inner world) (Returned pda call) s := by
  have returns : Possible (Alone world call) (Returned pda call) s :=
    move running (.joined resolved) .join (.now ⟨record, State.goto_calls_self ..⟩)
  exact together returns fun _ returned => returned

/-- A call that waits for a fill that was given up can remove its placeholder and fill
the entry itself. -/
theorem return_abandoned {entry : DelegationEntry}
    (running : s.calls call = some { pda, pc := .waiting fill })
    (dropped : s.fills fill = some .dropped) (found : s.db pda = some entry)
    (awaits : Awaits fill entry) : Possible (Inner world) (Returned pda call) s := by
  refine .step ⟨⟨call, .join⟩, (Edge.orphaned dropped).fires running⟩ ?_
  have present : (s.goto call pda (.discarding fill)).db pda = some entry := found
  refine .step ⟨⟨call, .discard⟩,
    (Edge.discard present awaits).fires (State.goto_calls_self ..)⟩ ?_
  refine return_vacant (State.goto_calls_self ..) ?_
  exact (State.setEntry_db ..).trans (if_pos rfl)

section Reached

variable (reached : Run (Fires step) State.init actions s)
include reached

/-- A call that waits for a fill with its owner at work on the entry can return. -/
theorem return_served (running : s.calls call = some { pda, pc := .waiting fill })
    (held : s.fills fill = some (.held owner)) {entry : DelegationEntry}
    (found : s.db pda = some entry) (awaits : Awaits fill entry) :
    Possible (Inner world) (Returned pda call) s := by
  obtain ⟨key, pc, owns, owned⟩ := (Custody.reached reached).held fill owner held
  obtain ⟨rfl, posted⟩ :=
    ((Coherent.reached reached).pending _ _ _ found awaits.2).2 _ _ _ owns owned
  have other : call ≠ owner := by
    rintro rfl
    cases running.symm.trans owns
    cases owned
  have finishes : Possible (Alone world owner) (Finished key owner fill) s := by
    rcases owner_concludes (Listed.reached reached) owns owned with finishes | ⟨lost, _⟩
    · exact finishes
    · exact absurd ⟨posted, entry, found, awaits⟩ lost
  obtain ⟨more, t, run, record, _, resolved⟩ := finishes
  exact (return_joined (waiting_kept run other running) resolved).before (Inner.of_alone run)

/-- A call at the head of the loop can return. -/
theorem return_lookup (running : s.calls call = some { pda, pc := .lookup }) :
    Possible (Inner world) (Returned pda call) s := by
  cases found : s.db pda with
  | none => exact return_vacant running found
  | some entry =>
    by_cases filled : entry.slot = 0
    · cases pending : entry.pendingFill with
      | none =>
        have returns : Possible (Alone world call) (Returned pda call) s := by
          refine move running (.refetch found filled pending) .read ?_
          refine move (State.goto_calls_self ..) .refetched .fetched ?_
          exact move (State.goto_calls_self ..) .remerge .merge (.now ⟨_, State.goto_calls_self ..⟩)
        exact together returns fun _ returned => returned
      | some fill =>
        have awaits : Awaits fill entry := ⟨filled, pending⟩
        have fired := (Edge.wait found awaits).fires running
        refine .step ⟨⟨call, .read⟩, fired⟩ ?_
        have waiting : (s.goto call pda (.waiting fill)).calls call =
            some { pda, pc := .waiting fill } := State.goto_calls_self ..
        obtain ⟨⟨known, unresolved⟩, _⟩ :=
          (Coherent.reached reached).pending _ _ _ found pending
        cases status : s.fills fill with
        | none => exact absurd status known
        | some status' =>
          cases status' with
          | held owner => exact return_served (reached.snoc fired) waiting status found awaits
          | resolved owner record => exact absurd status (unresolved owner record)
          | dropped => exact return_abandoned waiting status found awaits
    · have returns : Possible (Alone world call) (Returned pda call) s :=
        move running (.hit found filled) .read (.now ⟨_, State.goto_calls_self ..⟩)
      exact together returns fun _ returned => returned

theorem return_discarding (running : s.calls call = some { pda, pc := .discarding fill }) :
    Possible (Inner world) (Returned pda call) s := by
  by_cases serves : Serves s pda fill
  · obtain ⟨entry, found, awaits⟩ := serves
    have fired := (Edge.discard found awaits).fires running
    refine .step ⟨⟨call, .discard⟩, fired⟩ ?_
    exact return_lookup (reached.snoc fired) (State.goto_calls_self ..)
  · have gone : ∀ entry, s.db pda = some entry → ¬ Awaits fill entry :=
      fun entry found awaits => serves ⟨entry, found, awaits⟩
    have fired := (Edge.skip gone).fires running
    refine .step ⟨⟨call, .discard⟩, fired⟩ ?_
    exact return_lookup (reached.snoc fired) (State.goto_calls_self ..)

theorem return_orphaned (running : s.calls call = some { pda, pc := .waiting fill })
    (dropped : s.fills fill = some .dropped) : Possible (Inner world) (Returned pda call) s := by
  have fired := (Edge.orphaned dropped).fires running
  refine .step ⟨⟨call, .join⟩, fired⟩ ?_
  exact return_discarding (reached.snoc fired) (State.goto_calls_self ..)

theorem reached_alone {more : List Action} (run : Run (Alone world owner) s more t) :
    Run (Fires step) State.init (actions ++ more) t :=
  reached.append run.unguarded

theorem return_waiting (running : s.calls call = some { pda, pc := .waiting fill }) :
    Possible (Inner world) (Returned pda call) s := by
  have custody := Custody.reached reached
  cases status : s.fills fill with
  | none => exact absurd status (custody.waited _ _ _ running)
  | some status' =>
    cases status' with
    | resolved owner record => exact return_joined running status
    | dropped => exact return_orphaned reached running status
    | held owner =>
      obtain ⟨key, pc, owns, owned⟩ := custody.held fill owner status
      have other : call ≠ owner := by
        rintro rfl
        cases running.symm.trans owns
        cases owned
      rcases owner_concludes (Listed.reached reached) owns owned with finishes | ⟨_, retries⟩
      · obtain ⟨more, t, run, record, _, resolved⟩ := finishes
        exact (return_joined (waiting_kept run other running) resolved).before (Inner.of_alone run)
      · obtain ⟨more, t, run, _, dropped⟩ := retries
        refine .before (Inner.of_alone run) ?_
        exact return_orphaned (reached_alone reached run) (waiting_kept run other running) dropped

/-- Whatever it is doing, a call under way can return. -/
theorem return_live (running : s.calls call = some { pda, pc }) (live : pc.ended = false) :
    Possible (Inner world) (Returned pda call) s := by
  cases owned : pc.owned with
  | some fill =>
    rcases owner_concludes (Listed.reached reached) running owned with finishes | ⟨_, retries⟩
    · refine together finishes ?_
      rintro t ⟨record, returned, _⟩
      exact ⟨record, returned⟩
    · obtain ⟨more, t, run, again, _⟩ := retries
      exact (return_lookup (reached_alone reached run) again).before (Inner.of_alone run)
  | none =>
    cases pc with
    | lookup => exact return_lookup reached running
    | waiting fill => exact return_waiting reached running
    | discarding fill => exact return_discarding reached running
    | refetching slot =>
      have returns : Possible (Alone world call) (Returned pda call) s := by
        refine move running .refetched .fetched ?_
        exact move (State.goto_calls_self ..) .remerge .merge (.now ⟨_, State.goto_calls_self ..⟩)
      exact together returns fun _ returned => returned
    | remerging fetched =>
      have returns : Possible (Alone world call) (Returned pda call) s :=
        move running .remerge .merge (.now ⟨_, State.goto_calls_self ..⟩)
      exact together returns fun _ returned => returned
    | returned | cancelled => cases live
    | _ => cases owned

end Reached

/-- A call that has ended stays where it is. -/
theorem Step.ended (step : Step s action t) (running : s.calls call = some { pda, pc })
    (ended : pc.ended = true) : t.calls call = some { pda, pc } := by
  cases step.fate running with
  | same after => exact after
  | woken => cases ended
  | moved edge _ =>
    cases edge with
    | cancelOwner owned => cases ended.symm.trans (Pc.ended_of_owned owned)
    | cancel _ live => cases ended.symm.trans live
    | _ => cases ended

/-- A call under way stays so, or returns; nothing else comes of it without being cancelled. -/
theorem inner_fate {more : List Action} (run : Run (Inner world) s more t)
    (running : s.calls call = some { pda, pc }) (live : pc.ended = false) :
    ∃ pc', t.calls call = some { pda, pc := pc' } ∧
      (pc'.ended = false ∨ ∃ record, pc' = .returned record) := by
  induction run with
  | nil => exact ⟨pc, running, .inl live⟩
  | snoc _ last ih =>
    obtain ⟨⟨mover, moves⟩, fired⟩ := last
    obtain ⟨pc', before, outcome⟩ := ih
    cases (step_sound fired).fate before with
    | same after => exact ⟨pc', after, outcome⟩
    | woken after => exact ⟨_, after, .inl rfl⟩
    | moved edge reached =>
      subst reached
      refine ⟨_, State.goto_calls_self .., ?_⟩
      cases edge with
      | hit | joined | remerge | resolve => exact .inr ⟨_, rfl⟩
      | cancelOwner | cancel => cases moves
      | _ => exact .inl rfl

/-- No call is started. -/
theorem inner_known {more : List Action} (run : Run (Inner world) s more t)
    (found : t.calls call = some { pda, pc }) : ∃ before, s.calls call = some { pda, pc := before } := by
  induction run generalizing pc with
  | nil => exact ⟨pc, found⟩
  | snoc _ last ih =>
    obtain ⟨⟨mover, moves⟩, fired⟩ := last
    cases (step_sound fired).origin found with
    | same running => exact ih running
    | started _ starts =>
      subst starts
      cases moves
    | moved running _ _ => exact ih running
    | woken running => exact ih running

/-- The calls some action has started. -/
def startedCalls (actions : List Action) : List CallId :=
  actions.filterMap fun
    | .start call _ => some call
    | _ => none

/-- From every reachable state, whatever the provider answers, at whichever slots
subscriptions are made and whichever entries are evicted, the calls under way can all
return by steps of their own and of the syncer: no call is cancelled or started and no
stream message is needed for it. -/
theorem calls_can_return (run : Run (Fires step) State.init actions s) (world : World) :
    ∃ more t, Run (Inner world) s more t ∧ Quiet t ∧
      ∀ call pda pc, s.calls call = some { pda, pc } → pc.ended = false →
        ∃ record, t.calls call = some { pda, pc := .returned record } := by
  -- one call after another is brought to its end, and stays there
  have all : Possible (Inner world) (fun t => ∀ call ∈ startedCalls actions,
      ∀ running, t.calls call = some running → running.pc.ended = true) s := by
    refine Possible.all (fun call t => ∀ running, t.calls call = some running → running.pc.ended = true)
      (fun s => ∃ actions, Run (Fires step) State.init actions s) ?_ ?_ ?_ ⟨actions, run⟩
      (startedCalls actions)
    · rintro s action t ⟨earlier, reached⟩ ⟨_, fired⟩
      exact ⟨earlier ++ [action], reached.snoc fired⟩
    · rintro s action t _ moved call ended ⟨pda, pc⟩ found
      obtain ⟨before, running⟩ := inner_known (.single moved) found
      have finished := ended _ running
      cases ((step_sound moved.2).ended running finished).symm.trans found
      exact finished
    · rintro s ⟨earlier, reached⟩ call
      cases running : s.calls call with
      | none => exact .now fun _ found => by cases running.symm.trans found
      | some there =>
        cases finished : there.pc.ended with
        | true =>
          refine .now ?_
          intro _ found
          cases running.symm.trans found
          exact finished
        | false =>
          refine (return_live reached running finished).mono (fun _ _ _ moved => moved) ?_
          rintro t ⟨record, returned⟩ _ found
          cases returned.symm.trans found
          rfl
  obtain ⟨more, t, moved, ended⟩ := all
  have quiet : Quiet t := by
    rintro call ⟨pda, pc⟩ found
    obtain ⟨before, running⟩ := inner_known moved found
    refine ended call ?_ _ found
    exact List.mem_filterMap.mpr ⟨_, started_of_found run running, rfl⟩
  refine ⟨more, t, moved, quiet, ?_⟩
  intro call pda pc running live
  obtain ⟨after, found, outcome⟩ := inner_fate moved running live
  rcases outcome with still | ⟨record, rfl⟩
  · exact absurd (quiet call _ found) (by simp [still])
  · exact ⟨record, found⟩

/-- A provider that finds no account, and a cache with room. -/
def spacious : World where
  rpc := absentAtThirty
  slot := 20
  victim _ _ := none
  evictable _ _ _ chosen := by cases chosen

/-- The owner of a fill is cancelled while another call waits for it. -/
theorem calls_can_return_orphaned :
    ∃ s more t, Run (Fires step) State.init (parkedOwner ++ [.cancel 0]) s ∧
      s.calls 1 = some { pda := .default, pc := .waiting 0 } ∧ s.fills 0 = some .dropped ∧
      Run (Inner spacious) s more t ∧
      ∃ record, t.calls 1 = some { pda := .default, pc := .returned record } := by
  obtain ⟨s, run, checked⟩ := exists_run_of_exec
    (show (exec step State.init (parkedOwner ++ [.cancel 0])).map (fun s =>
      s.calls 1 == some { pda := .default, pc := .waiting 0 } && s.fills 0 == some .dropped) =
        some true by decide +kernel)
  obtain ⟨waits, dropped⟩ := Bool.and_eq_true_iff.mp checked
  obtain ⟨more, t, moved, _, returns⟩ := calls_can_return run spacious
  exact ⟨s, more, t, run, beq_iff_eq.mp waits, beq_iff_eq.mp dropped, moved,
    returns 1 _ _ (beq_iff_eq.mp waits) rfl⟩

end MagicRouter.Delegations
