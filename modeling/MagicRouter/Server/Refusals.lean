import MagicRouter.Server.Delivery

/-! All that clients are sent, over whole runs of the system: the notifications of what
they subscribed to, and error objects for signatures that were not forwarded or whose
subscription was not confirmed. -/

namespace MagicRouter

open Library Connection

/-- A handler has no errors for its client. -/
theorem AccountSubscriptionHandler.receive_reports_nothing (context : HandlerContext)
    (handler : AccountSubscriptionHandler) (message : PubsubMessage) (error : RouterError) :
    .report error ∉ (handler.receive context message).effects := by
  intro reported
  cases message with
  | subscribed handle => cases reported
  | notification id upstream payload =>
    have silent : .report error ∉
        (handler.handleDelegationStatusChange context payload id upstream).2 := by
      obtain same | ⟨_, _, _, _, _, same⟩ | ⟨_, _, _, same⟩ :=
        handleDelegationStatusChange_cases context handler payload id upstream
      all_goals
        rw [same]
        simp
    simp only [receive] at reported
    split at reported
    · exact silent reported
    · split at reported
      · exact silent (by simpa using reported)
      · exact silent reported
  | disconnected id =>
    simp only [receive] at reported
    split at reported
    · cases reported
    · obtain ⟨url, _, same⟩ := List.mem_map.mp reported
      cases same

theorem SignatureSubscriptionHandler.run_reports_nothing (handler : SignatureSubscriptionHandler)
    (input : SignatureInput) (error : RouterError) : .report error ∉ handler.run input := by
  intro reported
  cases input with
  | closed => cases List.mem_singleton.mp reported
  | timeout => cases reported
  | message message serialized delivered =>
    cases message with
    | subscribed _ | disconnected _ => cases reported
    | notification _ _ payload =>
      simp only [run] at reported
      split at reported
      · cases List.mem_singleton.mp reported
      · cases reported

namespace Party

variable {lib : UpdaterLibrary} {party next : Party}

/-- The subscriber is there for a signature, and its client is notified of nothing. -/
structure Unheard (party : Party) : Prop where
  target : ∃ signature params, party.target = .signature signature params
  forwarded : party.forwarded = []
  silent : ∀ payload, .notify payload ∉ party.outbox

/-- An error is for a signature subscription that was not confirmed in time. -/
structure Candid (party : Party) : Prop where
  waiting : ∀ pending, party.phase = .signaturePending pending → party.Unheard
  reported : ∀ error, error ∈ party.reported ∨ .report error ∈ party.outbox →
    party.phase.isEnded = true ∧ party.Unheard ∧ error = .subscriptionTimeout "signatureSubscribe"

/-- What a step leaves to be reported: nothing, or that no confirmation came. -/
structure Reports (party next : Party) : Prop where
  kept : next.reported = party.reported
  started : ∀ pending, next.phase ≠ .signaturePending pending
  refused : ∀ error, .report error ∈ next.outbox →
    (∃ pending, party.phase = .signaturePending pending) ∧ next.phase = .ended ∧
      next.outbox = [.report (.subscriptionTimeout "signatureSubscribe")]

theorem proceed_reports {phase : Phase} {effects : List HandlerEffect} {rest : List PubsubMessage}
    (started : ∀ pending, phase ≠ .signaturePending pending)
    (silent : ∀ error, .report error ∉ effects) :
    Reports party ({ party with inbox := rest }.proceed phase effects) where
  kept := rfl
  started := started
  refused error member := absurd member (silent error)

/-- The subscriber gives up on its signature. -/
theorem refuse_reports {pending : PendingSignatureSubscription} {rest : List PubsubMessage}
    (waiting : party.phase = .signaturePending pending) :
    Reports party ({ party with inbox := rest }.proceed .ended
      [.report (.subscriptionTimeout "signatureSubscribe")]) where
  kept := rfl
  started := nofun
  refused _ _ := ⟨⟨pending, waiting⟩, rfl, rfl⟩

theorem dispatched_silent (subs : List Subscription) (error : RouterError) :
    .report error ∉ subs.map HandlerEffect.dispatch := by
  simp

theorem take_reports {context : HandlerContext} {probe : Bool} {message : PubsubMessage}
    {rest : List PubsubMessage}
    (taken : { party with inbox := rest }.take lib context probe message = some next) :
    Reports party next := by
  unfold take at taken
  cases phase : party.phase with
  | registry updater =>
    simp only [phase] at taken
    cases taken
    exact proceed_reports nofun (dispatched_silent _)
  | accountPending pending =>
    simp only [phase] at taken
    split at taken
    · cases taken
      exact proceed_reports nofun fun _ => List.not_mem_nil
    · cases taken
      exact proceed_reports nofun fun _ => List.not_mem_nil
  | account handler =>
    simp only [phase] at taken
    cases taken
    refine proceed_reports ?_ (handler.receive_reports_nothing context message)
    intro pending
    split
    · exact nofun
    · exact nofun
  | signaturePending pending =>
    simp only [phase] at taken
    cases taken
    cases message with
    | subscribed _ => exact proceed_reports nofun fun _ => List.not_mem_nil
    | notification _ _ _ | disconnected _ => exact refuse_reports phase
  | signature handler =>
    simp only [phase] at taken
    cases taken
    exact proceed_reports nofun (handler.run_reports_nothing _)
  | ended =>
    simp only [phase] at taken
    cases taken

theorem step_reports {event : PartyEvent} (stepped : party.step lib event = some next) :
    Reports party next := by
  unfold step at stepped
  split at stepped
  · cases event with
    | message context probe =>
      simp only at stepped
      split at stepped
      · cases stepped
      · exact take_reports stepped
    | maintenance event =>
      simp only at stepped
      split at stepped
      all_goals try cases stepped
      all_goals
        obtain ⟨after, _, rfl⟩ := Option.map_eq_some_iff.mp stepped
        exact proceed_reports nofun (dispatched_silent _)
    | closed routes =>
      simp only at stepped
      split at stepped
      · cases stepped
        refine proceed_reports nofun ?_
        intro error member
        obtain ⟨entry, _, same⟩ := List.mem_map.mp member
        cases same
      · rename_i handler _
        cases stepped
        exact proceed_reports nofun (handler.run_reports_nothing _)
      · cases stepped
    | timeout =>
      simp only at stepped
      split at stepped
      all_goals cases stepped
      · exact proceed_reports nofun fun _ => List.not_mem_nil
      · exact refuse_reports ‹_›
      · exact proceed_reports nofun fun _ => List.not_mem_nil
  · cases stepped

theorem Candid.step {event : PartyEvent} (candid : party.Candid)
    (stepped : party.step lib event = some next) : next.Candid := by
  have reports := step_reports stepped
  have advances : Advances ⟨0⟩ party next := step_advances stepped
  refine ⟨fun pending here => absurd here (reports.started pending), ?_⟩
  rintro error (before | now)
  · -- a subscriber that has reported an error goes on with nothing
    have ended := (candid.reported error (.inl (reports.kept ▸ before))).1
    exact absurd (ended.symm.trans advances.running) (by decide)
  · obtain ⟨⟨pending, waiting⟩, ended, only⟩ := reports.refused error now
    have unheard := candid.waiting pending waiting
    rw [only] at now
    cases List.mem_singleton.mp now
    refine ⟨by rw [ended]; rfl, ⟨advances.target ▸ unheard.target, ?_, by simp [only]⟩, rfl⟩
    exact advances.history.2.trans unheard.forwarded

theorem Candid.accept (candid : party.Candid) (source : Source) (message : PubsubMessage) :
    (party.accept source message).Candid := by
  unfold Party.accept
  split
  · exact candid
  · refine ⟨fun pending here => ?_, fun error reported => ?_⟩
    · obtain ⟨target, forwarded, silent⟩ := candid.waiting pending here
      exact ⟨target, forwarded, silent⟩
    · obtain ⟨ended, ⟨target, forwarded, silent⟩, timeout⟩ := candid.reported error reported
      exact ⟨ended, ⟨target, forwarded, silent⟩, timeout⟩

/-- A send that is not a notification is done. -/
theorem Candid.sent {first : HandlerEffect} {rest : List HandlerEffect}
    {reported : List RouterError} (candid : party.Candid) (waiting : party.outbox = first :: rest)
    (known : ∀ error ∈ reported, error ∈ party.reported ∨ first = .report error) :
    Candid { party with outbox := rest, reported } := by
  have left {effect : HandlerEffect} (member : effect ∈ rest) : effect ∈ party.outbox :=
    waiting ▸ List.mem_cons_of_mem _ member
  have unheard (before : party.Unheard) : Unheard { party with outbox := rest, reported } :=
    ⟨before.target, before.forwarded, fun payload member => before.silent payload (left member)⟩
  refine ⟨fun pending here => unheard (candid.waiting pending here), fun error told => ?_⟩
  have before : error ∈ party.reported ∨ .report error ∈ party.outbox := by
    rcases told with listed | later
    · rcases known error listed with earlier | now
      · exact .inl earlier
      · exact .inr (waiting ▸ now ▸ List.mem_cons_self)
    · exact .inr (left later)
  obtain ⟨ended, silent, timeout⟩ := candid.reported error before
  exact ⟨ended, unheard silent, timeout⟩

/-- A subscriber that notifies its client has nothing to report, nor will it. -/
theorem Candid.notified {payload : Json} {rest : List HandlerEffect} (candid : party.Candid)
    (waiting : party.outbox = .notify payload :: rest) :
    Candid { party with outbox := rest, forwarded := party.forwarded ++ [payload] } := by
  have heard : ¬ party.Unheard := fun unheard =>
    unheard.silent payload (waiting ▸ List.mem_cons_self)
  refine ⟨fun pending here => absurd (candid.waiting pending here) heard, fun error told => ?_⟩
  have before : error ∈ party.reported ∨ .report error ∈ party.outbox :=
    told.imp_right fun later => waiting ▸ List.mem_cons_of_mem _ later
  exact absurd (candid.reported error before).2.1 heard

end Party

namespace Router

variable {lib : UpdaterLibrary} {transactionLib : TransactionLibrary} {s t : Router}
variable {action : Action} {actions : List Action} {count : Nat}

/-- The errors every subscriber reports are for signatures that were not confirmed. -/
def Candid (s : Router) : Prop :=
  ∀ (number : Nat) (party : Party), s.parties[number]? = some party → party.Candid

/-- A subscriber has nothing to report before it has waited. -/
theorem Begins.candid {tx : Channel} {id : RequestId} {target : SubscriptionTarget} {phase : Phase}
    {dispatched : List Subscription}
    (begins : Begins lib transactionLib tx id target phase dispatched) :
    Party.Candid {
      target, phase, inbox := [], outbox := dispatched.map .dispatch, arrived := []
      forwarded := [], reported := [] } where
  waiting pending waiting := by
    cases begins with
    | registry | account => cases waiting
    | signature => exact ⟨⟨_, _, rfl⟩, rfl, by simp⟩
  reported error reported := by simp at reported

theorem Candid.send {number : Nat} {party : Party} {first : HandlerEffect}
    {rest : List HandlerEffect} (candid : s.Candid) (found : s.parties[number]? = some party)
    (waiting : party.outbox = first :: rest) :
    (s.effect number { party with outbox := rest } first).Candid := by
  have before := candid _ _ found
  have others (next : Party) (now : next.Candid) : (s.replace number next).Candid :=
    forall_replaced now fun other had _ => candid other had
  cases first with
  | dispatch _ | unsubscribe _ _ => exact others _ (before.sent waiting fun _ => .inl)
  | notify payload => exact others _ (before.notified waiting)
  | report error =>
    refine others _ (before.sent waiting fun other member => ?_)
    rcases List.mem_append.mp member with earlier | now
    · exact .inl earlier
    · exact .inr (List.mem_singleton.mp now ▸ rfl)

theorem Candid.step (candid : s.Candid) (step : Step lib transactionLib s action t) :
    t.Candid := by
  cases step with
  | join _ _ begins => exact forall_joined begins.candid candid
  | refuse | network | dispatch | iterate | lose => exact candid
  | party found stepped =>
    exact forall_replaced ((candid _ _ found).step stepped) fun other had _ => candid other had
  | send found waiting => exact candid.send found waiting
  | deliver carried found =>
    exact forall_replaced ((candid _ _ found).accept _ _) fun other had _ => candid other had

theorem Candid.reached (run : Run (Fires (Router.step lib transactionLib)) (new count) actions s) :
    s.Candid := by
  apply run.invariant _ fun _ _ _ candid fired => Candid.step candid (step_sound fired)
  intro number party found
  simp [new] at found

/-- A refusal is reported at once. -/
theorem Step.refusals (step : Step lib transactionLib s action t) {error : RouterError}
    (reported : error ∈ t.refusals) : error ∈ s.refusals ∨
      ∃ transactions subscriberId requestId text params,
        action = .signatureSubscribe transactions subscriberId requestId text params ∧
        WebsocketServer.signatureSubscribe transactionLib transactions subscriberId requestId
          s.fresh text params = .error (.reported error) := by
  cases step with
  | refuse _ known => exact known error reported
  | @send _ _ first =>
    cases first with
    | _ => exact .inl reported
  | _ => exact .inl reported

theorem refusals_origin (run : Run (Fires (step lib transactionLib)) (new count) actions s) :
    ∀ error ∈ s.refusals, ∃ transactions subscriberId requestId text params signature,
      .signatureSubscribe transactions subscriberId requestId text params ∈ actions ∧
      transactionLib.parseSignature text = .ok signature ∧ transactions.get signature = none ∧
      error = .unknownTransaction signature := by
  induction run with
  | nil => exact List.forall_mem_nil _
  | snoc _ last ih =>
    intro error reported
    obtain earlier | ⟨transactions, subscriberId, requestId, text, params, rfl, refused⟩ :=
      (step_sound last).refusals reported
    · obtain ⟨transactions, subscriberId, requestId, text, params, signature, asked, rest⟩ :=
        ih error earlier
      exact ⟨transactions, subscriberId, requestId, text, params, signature,
        List.mem_append_left _ asked, rest⟩
    · obtain ⟨signature, parsed, unknown, same⟩ :=
        WebsocketServer.signatureSubscribe_reported refused
      exact ⟨transactions, subscriberId, requestId, text, params, signature,
        List.mem_append_right _ (List.mem_singleton_self _), parsed, unknown, same⟩

/-- Both errors: a signature that is not confirmed, and one that was not forwarded. -/
example : (exec (step Subscriber.sampleLibrary Subscriber.sampleTransactionLibrary) (new 1)
    [.signatureSubscribe Subscriber.sampleForwarded ⟨1⟩ ⟨2⟩ "7" none, .send 0, .party 0 .timeout,
      .send 0, .signatureSubscribe .empty ⟨3⟩ ⟨4⟩ "7" none]).map (fun s =>
    (s.parties.map Party.reported, s.refusals)) =
      some ([[.subscriptionTimeout "signatureSubscribe"]],
        [.unknownTransaction (.repeating 7)]) := by decide +kernel

end Router

end MagicRouter
