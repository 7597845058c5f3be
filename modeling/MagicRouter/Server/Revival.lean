import MagicRouter.Cache.Updater
import MagicRouter.Server.HandlerRun
import MagicRouter.Server.Signatures

/-! What the three kinds of subscribers do when a connection tells them that a
subscription of theirs is lost: the updater of the routing table, the handler of an
account subscription and that of a signature subscription. -/

namespace MagicRouter

open Library

/-- What a subscription request asks for. -/
inductive SubscriptionTarget where
  | account (pubkey : Pubkey) (params : Option RpcAccountInfoConfig)
  | signature (signature : Signature) (params : Option RpcSignatureSubscribeConfig)
  | program (pubkey : Pubkey)
  deriving DecidableEq

def Subscription.target (sub : Subscription) : SubscriptionTarget :=
  match sub.payload with
  | .accountSubscribe _ pubkey params => .account pubkey params
  | .signatureSubscribe _ signature params => .signature signature params
  | .programSubscribe _ pubkey => .program pubkey

inductive Subscriber where
  | registry (updater : Updater)
  | account (run : HandlerRun)
  | signature (run : SignatureRun)

/-- An event of one subscriber. -/
inductive SubscriberEvent where
  | registry (event : UpdaterEvent)
  | account (event : HandlerEvent)
  /-- with the forwarded transactions at that time, which the handler does not read -/
  | signature (event : SignatureEvent) (transactions : ForwardedTransactions)

namespace Subscriber

variable {lib : UpdaterLibrary}

def step (lib : UpdaterLibrary) : Subscriber → SubscriberEvent → Option Subscriber
  | .registry u, .registry event => (u.handle lib event).map fun next => .registry next.1
  | .account s, .account event => (s.step event).map .account
  | .signature s, .signature event _ => (s.step event).map .signature
  | _, _ => none

/-- The subscriptions dispatched in one step. -/
def dispatches (lib : UpdaterLibrary) : Subscriber → SubscriberEvent → List Subscription
  | .registry u, .registry event => ((u.handle lib event).map (·.2.dispatched)).getD []
  | .account s, .account event =>
    ((s.step event).map fun t => t.dispatched.drop s.dispatched.length).getD []
  | .signature s, .signature event _ =>
    ((s.step event).map fun t =>
      (t.sent.drop s.sent.length).filterMap HandlerEffect.dispatched).getD []
  | _, _ => []

/-- The subscription whose loss the subscriber is told of: one that was confirmed and
that it has not ended, with a route to its target known. -/
def loses : Subscriber → SubscriberEvent → Option Subscription
  | .registry u, .registry (.message (.disconnected id) _) =>
    if id = u.subscription.requestId then some u.subscription else none
  | .account s, .account (.lost reg context) =>
    if reg ∈ s.live ∧ (AccountSubscriptionHandler.redestination context).1.isSome then some reg.sub
    else none
  | .signature s, .signature (.input (.message (.disconnected id) _ _)) transactions =>
    match s.status with
    | .running handler =>
      if id = handler.handle.requestId ∧ (transactions.get handler.signature).isSome then
        some s.pending.dispatched
      else none
    | _ => none
  | _, _ => none

/-- A lost subscription is dispatched again, for the same target. -/
def Revives (lib : UpdaterLibrary) (s : Subscriber) (event : SubscriberEvent) : Prop :=
  ∀ lost, s.loses event = some lost → ∃ sub ∈ s.dispatches lib event, sub.target = lost.target

/-- The subscriber is the updater, or an account handler with a handle for the lost
request; a signature handler is told of no loss. -/
def Tracks (s : Subscriber) (event : SubscriberEvent) : Prop :=
  ∀ lost, s.loses event = some lost →
    match s with
    | .registry _ => True
    | .account run => lost.requestId ∈ run.handler.handles
    | .signature _ => False

/-- The subscriber at the beginning of its run. -/
inductive Starts (lib : UpdaterLibrary) : Subscriber → Prop where
  | registry (table : RoutingTable) (requestId : RequestId) (subscriberId : SubscriberId)
      (tx : Channel) : Starts lib (.registry (Updater.start lib table requestId subscriberId tx).1)
  | account (context : HandlerContext) (tx : Channel) (pubkey : Pubkey)
      (params : Option RpcAccountInfoConfig) (pending : PendingAccountSubscription)
      (routes : RoutingTable)
      (subscribed : WebsocketServer.accountSubscribe context tx pubkey params = (.ok pending, routes)) :
      Starts lib (.account (HandlerRun.start pending))
  | signature (transactionLib : TransactionLibrary) (transactions : ForwardedTransactions)
      (subscriberId : SubscriberId) (requestId : RequestId) (tx : Channel) (text : String)
      (params : Option RpcSignatureSubscribeConfig) (pending : PendingSignatureSubscription)
      (subscribed : WebsocketServer.signatureSubscribe transactionLib transactions subscriberId
        requestId tx text params = .ok pending) :
      Starts lib (.signature (SignatureRun.start pending))

/-- Every subscription of an account handler is for its account. -/
structure OwnTarget (s : HandlerRun) : Prop where
  outstanding : ∀ sub ∈ s.outstanding,
    sub.target = .account s.handler.pubkey s.handler.params
  live : ∀ reg ∈ s.live, reg.sub.target = .account s.handler.pubkey s.handler.params

/-- The invariant of a subscriber's run. -/
def Sound : Subscriber → Prop
  | .account s => OwnTarget s
  | .registry _ | .signature _ => True

/-- What a step may change of an account handler's subscriptions: it makes new ones
for its account, and it registers those it has dispatched. -/
theorem OwnTarget.of_changes {s t : HandlerRun} (own : OwnTarget s)
    (pubkey : t.handler.pubkey = s.handler.pubkey) (params : t.handler.params = s.handler.params)
    (outstanding : ∀ sub ∈ t.outstanding, sub ∈ s.outstanding ∨
      sub.target = .account s.handler.pubkey s.handler.params)
    (live : ∀ reg ∈ t.live, reg ∈ s.live ∨ reg.sub ∈ s.outstanding) : OwnTarget t where
  outstanding := by
    intro sub member
    rw [pubkey, params]
    rcases outstanding sub member with old | fresh
    · exact own.outstanding sub old
    · exact fresh
  live := by
    intro reg member
    rw [pubkey, params]
    rcases live reg member with old | confirmed
    · exact own.live reg old
    · exact own.outstanding reg.sub confirmed

theorem OwnTarget.step {s t : HandlerRun} {event : HandlerEvent} (own : OwnTarget s)
    (step : HandlerRun.Step s event t) : OwnTarget t := by
  cases step with
  | confirmed waiting _ =>
    refine own.of_changes rfl rfl ?_ ?_
    · intro sub member
      exact .inl (List.mem_of_mem_erase member)
    · intro reg member
      rcases List.mem_cons.mp member with rfl | old
      · exact .inr waiting
      · exact .inl old
  | passed _ _ _ _ => exact own.of_changes rfl rfl (fun _ member => .inl member) fun _ member => .inl member
  | delegated _ _ _ _ _ _ =>
    refine own.of_changes rfl rfl ?_ fun _ member => .inl member
    intro sub member
    rcases List.mem_append.mp member with old | fresh
    · exact .inl old
    · cases List.mem_singleton.mp fresh
      exact .inr rfl
  | undelegated _ _ _ _ _ =>
    exact own.of_changes rfl rfl (fun _ member => .inl member)
      fun _ member => .inl (List.mem_of_mem_filter member)
  | ignored _ _ _ =>
    exact own.of_changes rfl rfl (fun _ member => .inl member)
      fun _ member => .inl (HandlerRun.forget_live_sublist.subset member)
  | stranded _ _ _ _ =>
    exact own.of_changes rfl rfl (fun _ member => .inl member)
      fun _ member => .inl (HandlerRun.forget_live_sublist.subset member)
  | redispatched _ _ _ _ =>
    refine own.of_changes rfl rfl ?_ fun _ member => .inl (HandlerRun.forget_live_sublist.subset member)
    intro sub member
    rcases List.mem_append.mp member with old | fresh
    · exact .inl old
    · cases List.mem_singleton.mp fresh
      exact .inr rfl
  | cancelled _ => exact own.of_changes rfl rfl (fun _ member => .inl member) fun _ member => .inl member
  | closed _ => exact own.of_changes rfl rfl (fun _ member => .inl member) fun _ member => .inl member

theorem OwnTarget.start {context : HandlerContext} {tx : Channel} {pubkey : Pubkey}
    {params : Option RpcAccountInfoConfig} {pending : PendingAccountSubscription}
    {routes : RoutingTable}
    (subscribed : WebsocketServer.accountSubscribe context tx pubkey params = (.ok pending, routes)) :
    OwnTarget (HandlerRun.start pending) := by
  obtain ⟨handler, sent⟩ := WebsocketServer.accountSubscribe_ok subscribed
  refine ⟨?_, by simp [HandlerRun.start]⟩
  intro sub member
  change sub ∈ pending.dispatched at member
  change sub.target = .account pending.handler.pubkey pending.handler.params
  rw [handler]
  rcases sent with ⟨_, sent⟩ | ⟨_, node, _, _, sent⟩
  · rw [sent] at member
    cases List.mem_singleton.mp member
    rfl
  · rw [sent] at member
    rcases List.mem_pair.mp member with rfl | rfl <;> rfl

variable {s t : Subscriber} {event : SubscriberEvent}

theorem Sound.step (sound : s.Sound) (fired : step lib s event = some t) : t.Sound := by
  cases s with
  | registry u =>
    cases event with
    | registry event =>
      obtain ⟨next, _, rfl⟩ := Option.map_eq_some_iff.mp fired
      trivial
    | account _ => cases fired
    | signature _ _ => cases fired
  | account run =>
    cases event with
    | account event =>
      obtain ⟨next, taken, rfl⟩ := Option.map_eq_some_iff.mp fired
      exact OwnTarget.step sound (HandlerRun.step_sound taken)
    | registry _ => cases fired
    | signature _ _ => cases fired
  | signature run =>
    cases event with
    | signature event _ =>
      obtain ⟨next, _, rfl⟩ := Option.map_eq_some_iff.mp fired
      trivial
    | account _ => cases fired
    | registry _ => cases fired

theorem Sound.start (starts : Starts lib s) : s.Sound := by
  cases starts with
  | registry table requestId subscriberId tx => trivial
  | account context tx pubkey params pending routes subscribed => exact OwnTarget.start subscribed
  | signature _ _ _ _ _ _ _ _ _ => trivial

/-- The updater dispatches its subscription again, whatever it has lost. -/
private theorem registry_revives (u : Updater) (event : UpdaterEvent) :
    Revives lib (.registry u) (.registry event) := by
  intro lost told
  match event, told with
  | .message (.disconnected id) probe, told =>
    simp only [loses] at told
    split at told
    · cases told
      exact ⟨{ u.subscription with destination := u.table.baseChain.1.wsUrl }, by
        simp [dispatches, Updater.handle, Updater.receive], rfl⟩
    · cases told

private theorem account_revives_iff {run next : HandlerRun} {event : HandlerEvent}
    (own : OwnTarget run) (fired : run.step event = some next) :
    Revives lib (.account run) (.account event) ↔ Tracks (.account run) (.account event) := by
  match event, fired with
  | .lost reg context, fired =>
    by_cases told : reg ∈ run.live ∧ (AccountSubscriptionHandler.redestination context).1.isSome
    · have same := own.live reg told.1
      cases HandlerRun.step_sound fired with
      | ignored _ untracked _ =>
        simp [Revives, Tracks, loses, told, dispatches, fired, untracked]
      | stranded _ _ nowhere _ => simp [nowhere] at told
      | @redispatched _ handle _ url _ tracked _ _ =>
        have present : reg.sub.requestId ∈ run.handler.handles :=
          AList.lookup_isSome.mp (by rw [tracked]; rfl)
        refine iff_of_true ?_ ?_
        · intro lost named
          simp only [loses, told, and_self, if_true, Option.some.injEq] at named
          subst named
          refine ⟨run.handler.resubscription handle url, ?_, same.symm⟩
          simp [dispatches, fired, HandlerRun.dispatch]
        · intro lost named
          simp only [loses, told, and_self, if_true, Option.some.injEq] at named
          subst named
          exact present
    · simp [Revives, Tracks, loses, told]
  | .confirmed .., _ => exact iff_of_true (fun _ told => by cases told) (fun _ told => by cases told)
  | .notified .., _ => exact iff_of_true (fun _ told => by cases told) (fun _ told => by cases told)
  | .cancelled _, _ => exact iff_of_true (fun _ told => by cases told) (fun _ told => by cases told)
  | .closed _, _ => exact iff_of_true (fun _ told => by cases told) (fun _ told => by cases told)

private theorem signature_dispatches (run : SignatureRun) (event : SignatureEvent)
    (transactions : ForwardedTransactions) :
    dispatches lib (.signature run) (.signature event transactions) = [] := by
  cases status : run.status with
  | waiting =>
    cases event with
    | input _ => simp [dispatches, SignatureRun.step, status]
    | confirmation message =>
      cases started : WebsocketServer.startSignatureHandler run.pending message <;>
        simp [dispatches, SignatureRun.step, status, started]
  | running handler =>
    cases event with
    | confirmation _ => simp [dispatches, SignatureRun.step, status]
    | input taken =>
      simp [dispatches, SignatureRun.step, status, SignatureRun.run_dispatches_nothing]
  | ended => simp [dispatches, SignatureRun.step, status]

/-- Of the three kinds, the updater always revives what it has lost, an account handler
does exactly if it has a handle for it, and a signature handler never does. -/
theorem revives_iff (sound : s.Sound) (fired : step lib s event = some t) :
    Revives lib s event ↔ Tracks s event := by
  cases s with
  | registry u =>
    cases event with
    | registry event => exact iff_of_true (registry_revives u event) fun _ _ => trivial
    | account _ => cases fired
    | signature _ _ => cases fired
  | account run =>
    cases event with
    | account event =>
      obtain ⟨next, taken, rfl⟩ := Option.map_eq_some_iff.mp fired
      exact account_revives_iff sound taken
    | registry _ => cases fired
    | signature _ _ => cases fired
  | signature run =>
    cases event with
    | signature event transactions =>
      refine forall_congr' fun lost => imp_congr_right fun _ => ?_
      simp [signature_dispatches]
    | account _ => cases fired
    | registry _ => cases fired

/-- In every run of every kind of subscriber: each loss it is told of is made good
exactly if it is the updater, or an account handler that has a handle for the lost
request at that moment. -/
theorem always_revives_iff (lib : UpdaterLibrary) (starts : Starts lib s)
    (events : List SubscriberEvent) (run : Run (Fires (step lib)) s events t) :
    Always (step lib) (Revives lib) s events ↔ Always (step lib) Tracks s events := by
  refine always_congr (Sound.start starts) ?_ ?_ run
  · intro s event t sound fired
    exact sound.step fired
  · intro s event t sound fired
    exact revives_iff sound fired

/-- The crates' behaviour in the samples: every text is signature 7, nothing decodes. -/
def sampleLibrary : UpdaterLibrary where
  parse _ := none
  setScheme _ _ := none
  deserialize _ := none
  pubkeyFromStr _ := none
  decodeAccount _ := none
  programId := .repeating 2

def sampleTransactionLibrary : TransactionLibrary where
  decodeBase58 _ := .error ""
  decodeBase64 _ := .error ""
  deserialize _ := .error ""
  isMaybeWritable _ _ := false
  parseSignature _ := .ok (.repeating 7)

/-- Signature 7 was forwarded to the sample node. -/
def sampleForwarded : ForwardedTransactions :=
  ForwardedTransactions.empty.track (.repeating 7)
    { rpc := RoutingTable.sampleNode.client, ws := RoutingTable.sampleNode.wsUrl } none

def signaturePending : PendingSignatureSubscription where
  signature := .repeating 7
  subscriberId := ⟨1⟩
  dispatched := {
    requestId := ⟨2⟩, subscriberId := ⟨1⟩
    payload := signatureSubscriptionJson ⟨2⟩ (.repeating 7) none
    tx := ⟨1⟩
    destination := RoutingTable.sampleNode.wsUrl
    upstream := .chain }

/-- The signature subscription is confirmed, and then its connection is lost. -/
def signatureLost : List SubscriberEvent :=
  [.signature (.confirmation (some (.subscribed { requestId := ⟨2⟩, unsub := ⟨0⟩, upstream := .chain })))
      sampleForwarded,
    .signature (.input (.message (.disconnected ⟨2⟩) true true)) sampleForwarded]

/-- The signature handler ends on the message, and its client is subscribed to nothing. -/
theorem signature_not_revived :
    ¬ ∀ (lib : UpdaterLibrary) s events t, Starts lib s → Run (Fires (step lib)) s events t →
      Always (step lib) (Revives lib) s events := by
  intro claimed
  have starts : Starts sampleLibrary (.signature (SignatureRun.start signaturePending)) :=
    .signature sampleTransactionLibrary sampleForwarded ⟨1⟩ ⟨2⟩ ⟨1⟩ "7" none signaturePending rfl
  have confirmed : Run (Fires (step sampleLibrary)) (.signature (SignatureRun.start signaturePending))
      [signatureLost[0]] _ := .single rfl
  have lost : Run (Fires (step sampleLibrary)) (.signature (SignatureRun.start signaturePending))
      signatureLost _ := .snoc confirmed rfl
  have revives := claimed _ _ _ _ starts lost [signatureLost[0]] signatureLost[1] [] _ rfl confirmed
  obtain ⟨sub, member, _⟩ := revives _ rfl
  cases member

/-- An executable form of `Tracks`. -/
def tracks (s : Subscriber) (event : SubscriberEvent) : Bool :=
  (s.loses event).all fun lost =>
    match s with
    | .registry _ => true
    | .account run => decide (lost.requestId ∈ run.handler.handles)
    | .signature _ => false

theorem tracks_sound (s : Subscriber) (event : SubscriberEvent) (checked : s.tracks event = true) :
    s.Tracks event := by
  intro lost told
  rw [tracks, told, Option.all_some] at checked
  cases s with
  | registry _ => trivial
  | account run => exact of_decide_eq_true checked
  | signature _ => cases checked

/-- The base-chain subscription of an account is confirmed, and then lost. -/
def accountLost : List SubscriberEvent :=
  [.account (.confirmed Sources.chainSub ⟨1⟩ HandlerRun.undelegatedContext),
    .account (.lost HandlerRun.chainReg HandlerRun.undelegatedContext)]

/-- The account handler makes its loss good. -/
theorem account_always_revives :
    Always (step sampleLibrary) (Revives sampleLibrary)
      (.account (HandlerRun.start HandlerRun.chainPending)) accountLost := by
  obtain ⟨t, run, _⟩ := exists_run_of_exec
    (show (exec (checkedStep tracks (step sampleLibrary))
      (.account (HandlerRun.start HandlerRun.chainPending)) accountLost).map (fun _ => true) =
        some true by decide +kernel)
  have guarded := run.guarded_of_checked tracks_sound
  have starts : Starts sampleLibrary (.account (HandlerRun.start HandlerRun.chainPending)) :=
    .account _ _ _ _ _ _ HandlerRun.chain_subscribed
  exact (always_revives_iff sampleLibrary starts accountLost guarded.unguarded).mpr guarded.always

end Subscriber

end MagicRouter
