import MagicRouter.Cache.Announcements
import MagicRouter.Cache.Closest
import MagicRouter.Server.Delivery
import MagicRouter.Server.Endpoints

/-! Whom the router connects to (`run` in `lib.rs`). The updater listens to the registry
over connections to the base chain and tells the dispatcher which nodes to connect to;
so every connection goes back to the configuration, or to a registry record that was
read from the base chain. -/

namespace MagicRouter

open Library Connection

/-- The account is a registry record of a node with this websocket URL. -/
def Account.Names (lib : RegistryLibrary) (account : Account) (url : Url) : Prop :=
  ∃ record, lib.deserialize account.data = some record ∧
    record.wsUrl lib.toUrlLibrary = some url

/-- What entitles a URL to connections: the configuration, a registry record read at
start-up, or one that the updater was notified of. -/
inductive Vouched (lib : UpdaterLibrary) (upstreams : BaseChainUpstreams)
    (accounts : List RegistryNotification) (arrived : List (Source × PubsubMessage)) (url : Url) :
    Prop where
  | configured (listed : url ∈ upstreams.urls)
  | read (listed : entry ∈ accounts) (names : entry.account.Names lib.toRegistryLibrary url)
  | notified (received : (source, .notification request upstream payload) ∈ arrived)
      (reports : Updater.notified lib payload = some (pubkey, account))
      (names : account.Names lib.toRegistryLibrary url)

/-- The updater announces what it has found out. -/
def Party.announces (lib : UpdaterLibrary) (party : Party) : PartyEvent → List WsUpstreamState
  | .message _ probe =>
    match party.phase, party.inbox with
    | .registry updater, message :: _ => (updater.receive lib message probe).2.announced
    | _, _ => []
  | .maintenance _ | .closed _ | .timeout => []

/-- The router with the channel that leads from its routing table to the dispatcher. -/
structure Deployment where
  router : Router
  states : List WsUpstreamState

namespace Deployment

/-- The table `RoutingTable::new` has built from the accounts of the registry. -/
def table (lib : UpdaterLibrary) (upstreams : BaseChainUpstreams) (staleAfter : Nat)
    (static : Option Pubkey) (accounts : List RegistryNotification) : RoutingTable :=
  (RoutingTable.initial upstreams staleAfter static).baseChain.2.follow lib.toRegistryLibrary accounts

/-- `RoutingTable::new` has announced its upstreams and spawned the updater, which is the
first subscriber. -/
def new (lib : UpdaterLibrary) (upstreams : BaseChainUpstreams) (staleAfter : Nat)
    (static : Option Pubkey) (accounts : List RegistryNotification) (requestId : RequestId)
    (subscriberId : SubscriberId) (count : Nat) : Deployment :=
  let (updater, output) :=
    Updater.start lib (table lib upstreams staleAfter static accounts) requestId subscriberId ⟨0⟩
  { router := (Router.new count).join (.program lib.programId) (.registry updater) output.dispatched
    states := RoutingTable.chainAnnouncements upstreams ++
      (RoutingTable.initial upstreams staleAfter static).baseChain.2.announcements
        lib.toRegistryLibrary accounts }

def step (lib : UpdaterLibrary) (transactionLib : TransactionLibrary) (d : Deployment) :
    Router.Action → Option Deployment
  | .registry _ _ _ => none
  | .state message =>
    match d.states with
    | [] => none
    | oldest :: rest =>
      if oldest = message then
        (d.router.step lib transactionLib (.state message)).map fun router =>
          { router, states := rest }
      else none
  | .party number event =>
    (d.router.step lib transactionLib (.party number event)).map fun router =>
      { router
        states := d.states ++
          if number = 0 then (d.router.parties[0]?).toList.flatMap (·.announces lib event) else [] }
  | action => (d.router.step lib transactionLib action).map fun router => { d with router }

end Deployment

namespace RoutingTable

variable {lib : RegistryLibrary} {table : RoutingTable} {trusted : Url → Prop}

/-- All nodes of the table are trusted. -/
def Trusts (trusted : Url → Prop) (table : RoutingTable) : Prop :=
  ∀ identity upstream, table.inner.lookup identity = some upstream → trusted upstream.wsUrl

/-- A registry account can only bring in the node it names, and only such nodes are
announced. -/
theorem Trusts.insertEntry (trusts : table.Trusts trusted) {pubkey : Pubkey} {account : Account}
    {probe : Bool} (names : ∀ url, account.Names lib url → trusted url) :
    (table.insertEntry lib pubkey account probe).1.Trusts trusted ∧
      ∀ message ∈ (table.insertEntry lib pubkey account probe).2, trusted message.url := by
  constructor
  · intro identity upstream found
    rcases insertEntry_nodes found with ⟨before, held, same⟩ | ⟨record, new, decoded, built, same⟩
    · have address : upstream.wsUrl = before.wsUrl := congrArg RemoteHandle.ws same
      exact address ▸ trusts identity before held
    · have address : upstream.wsUrl = new.wsUrl := congrArg RemoteHandle.ws same
      exact names _ ⟨record, decoded, address ▸ wsUrl_of_built built⟩
  · intro message announced
    unfold RoutingTable.insertEntry at announced
    split at announced
    · split at announced
      · unfold removeEntry at announced
        split at announced
        · cases announced
        · simp only at announced
          split at announced
          · cases announced
          · rename_i upstream held
            rw [List.mem_singleton.mp announced]
            exact trusts _ upstream held
      · cases announced
    · rename_i record decoded
      split at announced
      · cases announced
      · rename_i new built
        rw [List.mem_singleton.mp announced]
        have address : (table.carryProximity record.identity new).wsUrl = new.wsUrl :=
          congrArg RemoteHandle.ws (carryProximity_handle ..)
        exact names _ ⟨record, decoded, address ▸ wsUrl_of_built built⟩

/-- The same for the accounts of the registry one after the other. -/
theorem Trusts.follow (lib : RegistryLibrary) {accounts : List RegistryNotification}
    (trusts : table.Trusts trusted)
    (names : ∀ entry ∈ accounts, ∀ url, entry.account.Names lib url → trusted url) :
    (table.follow lib accounts).Trusts trusted ∧
      ∀ message ∈ table.announcements lib accounts, trusted message.url := by
  induction accounts generalizing table with
  | nil => exact ⟨trusts, List.forall_mem_nil _⟩
  | cons entry rest ih =>
    obtain ⟨next, announced⟩ := trusts.insertEntry (names entry List.mem_cons_self)
    obtain ⟨last, later⟩ := ih next fun other member => names other (List.mem_cons_of_mem _ member)
    refine ⟨last, ?_⟩
    intro message member
    rcases List.mem_append.mp member with now | after
    · exact announced message now
    · exact later message after

end RoutingTable

/-- The updater keeps to a base chain, which it sends its subscription to, and to nodes
that are trusted. -/
structure Updater.Keeps (upstreams : BaseChainUpstreams) (trusted : Url → Prop) (updater : Updater) :
    Prop where
  chain : updater.table.baseChainUpstreams.upstreams = upstreams.upstreams
  nodes : updater.table.Trusts trusted
  destination : updater.subscription.destination ∈ upstreams.urls

namespace Updater.Keeps

variable {lib : UpdaterLibrary} {upstreams : BaseChainUpstreams} {trusted : Url → Prop}
variable {updater : Updater}

/-- Its turn or not, an upstream of the base chain is one of the configured. -/
theorem baseChain_mem {table : RoutingTable}
    (chain : table.baseChainUpstreams.upstreams = upstreams.upstreams) :
    table.baseChain.1.wsUrl ∈ upstreams.urls := by
  refine List.mem_map_of_mem ?_
  rw [← chain]
  exact List.getElem_mem _

theorem receive (keeps : updater.Keeps upstreams trusted) (lib : UpdaterLibrary)
    (message : PubsubMessage) (probe : Bool)
    (names : ∀ id upstream payload pubkey account,
      message = .notification id upstream payload →
      notified lib payload = some (pubkey, account) →
      ∀ url, account.Names lib.toRegistryLibrary url → trusted url) :
    (updater.receive lib message probe).1.Keeps upstreams trusted ∧
      ∀ state ∈ (updater.receive lib message probe).2.announced, trusted state.url := by
  cases message with
  | subscribed handle => exact ⟨keeps, List.forall_mem_nil _⟩
  | notification id upstream payload =>
    simp only [Updater.receive]
    split
    · exact ⟨keeps, List.forall_mem_nil _⟩
    · rename_i pubkey account reports
      obtain ⟨nodes, announced⟩ := keeps.nodes.insertEntry (names _ _ _ _ _ rfl reports)
      refine ⟨⟨?_, nodes, keeps.destination⟩, announced⟩
      rw [(updater.table.insertEntry_chain _ _ _ _).1]
      exact keeps.chain
  | disconnected id =>
    exact ⟨⟨keeps.chain, keeps.nodes, baseChain_mem keeps.chain⟩, List.forall_mem_nil _⟩

/-- Pings change no node's URL. -/
theorem handle {event : UpdaterEvent} {next : Updater × UpdaterOutput}
    (keeps : updater.Keeps upstreams trusted)
    (quiet : ∀ message probe, event ≠ .message message probe)
    (handled : updater.handle lib event = some next) : next.1.Keeps upstreams trusted := by
  cases event with
  | message message probe => exact absurd rfl (quiet message probe)
  | ping index result =>
    simp only [Updater.handle] at handled
    split at handled
    · cases handled
    · cases handled
      unfold settle
      split
      · exact ⟨keeps.chain, keeps.nodes, keeps.destination⟩
      · rename_i record held
        refine ⟨keeps.chain, ?_, keeps.destination⟩
        intro identity upstream found
        rw [Store.lookup_insert_if] at found
        split at found
        · cases found
          rw [UpstreamRecord.settle_wsUrl]
          exact keeps.nodes _ record held
        · exact keeps.nodes identity upstream found
  | tick =>
    simp only [Updater.handle] at handled
    split at handled
    · cases handled
      exact keeps
    · cases handled
      exact ⟨keeps.chain, keeps.nodes, keeps.destination⟩

theorem mono {more : Url → Prop} (keeps : updater.Keeps upstreams trusted)
    (wider : ∀ url, trusted url → more url) : updater.Keeps upstreams more :=
  ⟨keeps.chain, fun identity upstream found => wider _ (keeps.nodes identity upstream found),
    keeps.destination⟩

end Updater.Keeps

namespace Network

variable {n n' : Network} {action : Action}

/-- What connections do is no attempt at new ones. -/
theorem connections_iterate {between after : SubscriptionDispatcher} {pool : PoolId} {input : Input}
    {session : Session} (supplies : n.supply pool input = some between)
    (departs : depart between pool session = some after) :
    after.connections = n.dispatcher.connections := by
  have supplied : between.connections = n.dispatcher.connections := by
    unfold supply at supplies
    split at supplies
    · split at supplies
      · cases SubscriptionDispatcher.step_sound supplies with
        | receive => rfl
      · cases supplies
    all_goals
      cases supplies
      rfl
  rw [← supplied]
  unfold depart at departs
  split at departs
  · cases departs
    rfl
  · cases SubscriptionDispatcher.step_sound departs with
    | disconnect => rfl

/-- An attempt is made only where a state message asks for it. -/
theorem Step.attempts (step : Step n action n') :
    ∀ attempt ∈ n'.dispatcher.connections, attempt ∈ n.dispatcher.connections ∨
      ∃ message, action = .state message ∧ attempt.1 = message.url := by
  intro attempt member
  cases step with
  | state fired =>
    cases SubscriptionDispatcher.step_sound fired with
    | offline | known => exact .inl member
    | attempt =>
      rcases List.mem_append.mp member with before | now
      · exact .inl before
      · rw [List.mem_singleton.mp now]
        exact .inr ⟨_, rfl, rfl⟩
  | request fired =>
    cases SubscriptionDispatcher.step_sound fired with
    | unknown | dead | deliver => exact .inl member
  | completed found fired =>
    cases SubscriptionDispatcher.step_sound fired with
    | completed _ => exact .inl (List.mem_of_mem_eraseIdx member)
  | terminate fired =>
    cases SubscriptionDispatcher.step_sound fired with
    | terminate => exact .inl member
  | iterate found ran supplies departs =>
    rw [connections_iterate supplies departs] at member
    exact .inl member

/-- A connection keeps its URL, and a new one has that of the attempt it comes from. -/
theorem Step.sessions (step : Step n action n') {pool : PoolId} {member : Nat} {session : Session}
    (found : (n'.members pool)[member]? = some session) :
    (∃ before, (n.members pool)[member]? = some before ∧
      session.connection.url = before.connection.url) ∨
    ∃ attempt ∈ n.dispatcher.connections, session.connection.url = attempt.1 := by
  cases step with
  | state | request | terminate => exact .inl ⟨session, found, rfl⟩
  | completed pending fired =>
    simp only [Function.update_apply] at found
    split at found
    · obtain ⟨number, _, rfl⟩ := List.mem_map.mp (List.mem_of_getElem? found)
      exact .inr ⟨_, List.mem_of_getElem? pending, rfl⟩
    · exact .inl ⟨session, found, rfl⟩
  | @iterate _ _ before _ next _ _ present ran supplies departs =>
    simp only [Function.update_apply] at found
    split at found
    · rename_i same
      subst same
      rw [List.getElem?_set] at found
      split at found
      · rename_i here
        subst here
        split at found
        · cases found
          obtain ⟨_, moved, _⟩ := step_eq_some ran
          refine .inl ⟨before, present, ?_⟩
          rw [moved]
          exact handle_identity.2
        · cases found
      · exact .inl ⟨session, found, rfl⟩
    · exact .inl ⟨session, found, rfl⟩

end Network

namespace Vouched

variable {lib : UpdaterLibrary} {upstreams : BaseChainUpstreams}
variable {accounts : List RegistryNotification} {arrived more : List (Source × PubsubMessage)}

theorem mono {url : Url} (vouched : Vouched lib upstreams accounts arrived url)
    (included : arrived ⊆ more) : Vouched lib upstreams accounts more url := by
  cases vouched with
  | configured listed => exact .configured listed
  | read listed names => exact .read listed names
  | notified received reports names => exact .notified (included received) reports names

end Vouched

/-- The updater goes on as the updater. It subscribes at the base chain only, and
announces only trusted nodes, if these include all that are named to it. -/
theorem Party.registry_step {lib : UpdaterLibrary} {upstreams : BaseChainUpstreams}
    {trusted : Url → Prop} {party next : Party} {updater : Updater} {event : PartyEvent}
    (phase : party.phase = .registry updater) (keeps : updater.Keeps upstreams trusted)
    (names : ∀ request upstream payload pubkey account,
      .notification request upstream payload ∈ party.inbox →
      Updater.notified lib payload = some (pubkey, account) →
      ∀ url, account.Names lib.toRegistryLibrary url → trusted url)
    (stepped : party.step lib event = some next) :
    ∃ after : Updater, next.phase = .registry after ∧ after.Keeps upstreams trusted ∧
      ∀ sub, .dispatch sub ∈ next.outbox → sub.destination ∈ upstreams.urls := by
  unfold Party.step at stepped
  split at stepped
  · cases event with
    | message context probe =>
      simp only at stepped
      split at stepped
      · cases stepped
      · rename_i message rest queued
        simp only [Party.take, phase] at stepped
        cases stepped
        obtain ⟨kept, _⟩ := keeps.receive lib message probe
          fun request upstream payload pubkey account same =>
            names request upstream payload pubkey account (queued ▸ same ▸ List.mem_cons_self)
        obtain ⟨_, _, only⟩ := updater.receive_subscription lib message probe
        refine ⟨_, rfl, kept, ?_⟩
        intro sub member
        obtain ⟨_, listed, same⟩ := List.mem_map.mp member
        cases same
        exact only sub listed ▸ kept.destination
    | maintenance event =>
      have kept {event : UpdaterEvent} (quiet : ∀ message probe, event ≠ .message message probe)
          (stepped : (updater.handle lib event).map (fun next =>
            party.proceed (.registry next.1) (next.2.dispatched.map .dispatch)) = some next) :
          ∃ after : Updater, next.phase = .registry after ∧ after.Keeps upstreams trusted ∧
            ∀ sub, .dispatch sub ∈ next.outbox → sub.destination ∈ upstreams.urls := by
        obtain ⟨after, handled, rfl⟩ := Option.map_eq_some_iff.mp stepped
        refine ⟨after.1, rfl, keeps.handle quiet handled, ?_⟩
        intro sub member
        obtain ⟨_, listed, _⟩ := List.mem_map.mp member
        cases (Updater.handle_quiet quiet handled).2 ▸ listed
      simp only [phase] at stepped
      split at stepped
      · rename_i same
        cases same
        refine kept ?_ stepped
        exact nofun
      · rename_i same
        cases same
        refine kept ?_ stepped
        exact nofun
      · cases stepped
    | closed routes =>
      simp only [phase] at stepped
      cases stepped
    | timeout =>
      simp only [phase] at stepped
      cases stepped
  · cases stepped

/-- A send changes nothing but what its subscriber has left to send and has sent. -/
theorem Router.effect_replaces (s : Router) (number : Nat) (party : Party)
    (effect : HandlerEffect) : ∃ next : Party,
      (s.effect number party effect).parties = s.parties.set number next ∧
      (s.effect number party effect).network = s.network ∧ next.phase = party.phase ∧
      next.arrived = party.arrived ∧ next.outbox = party.outbox := by
  cases effect with
  | dispatch sub => exact ⟨party, rfl, rfl, rfl, rfl, rfl⟩
  | unsubscribe connection unsub => exact ⟨party, rfl, rfl, rfl, rfl, rfl⟩
  | notify _ | report _ => exact ⟨_, rfl, rfl, rfl, rfl, rfl⟩

namespace Deployment

variable {lib : UpdaterLibrary} {transactionLib : TransactionLibrary} {d t : Deployment}
variable {upstreams : BaseChainUpstreams} {accounts : List RegistryNotification}
variable {action : Router.Action} {actions : List Router.Action} {count : Nat}

/-- The router takes its own step; a state message comes from the channel, and only the
updater puts messages there. -/
theorem step_sound (fired : d.step lib transactionLib action = some t) :
    d.router.step lib transactionLib action = some t.router ∧
    (∀ message, action = .state message → message ∈ d.states) ∧
    ∀ message ∈ t.states, message ∈ d.states ∨ ∃ event party, d.router.parties[0]? = some party ∧
      message ∈ party.announces lib event := by
  have plain (same : (d.router.step lib transactionLib action).map (fun router =>
      { d with router }) = some t) : d.router.step lib transactionLib action = some t.router ∧
        ∀ message ∈ t.states, message ∈ d.states ∨ ∃ event party,
          d.router.parties[0]? = some party ∧ message ∈ party.announces lib event := by
    obtain ⟨router, moved, rfl⟩ := Option.map_eq_some_iff.mp same
    exact ⟨moved, fun message member => .inl member⟩
  cases action with
  | registry _ _ _ => cases fired
  | state message =>
    simp only [step] at fired
    split at fired
    · cases fired
    · rename_i oldest rest queued
      split at fired
      · rename_i same
        obtain ⟨router, moved, rfl⟩ := Option.map_eq_some_iff.mp fired
        refine ⟨moved, ?_, ?_⟩
        · rintro _ ⟨⟩
          rw [queued, same]
          exact List.mem_cons_self
        · intro message member
          rw [queued]
          exact .inl (List.mem_cons_of_mem _ member)
      · cases fired
  | party number event =>
    obtain ⟨router, moved, rfl⟩ := Option.map_eq_some_iff.mp fired
    refine ⟨moved, nofun, ?_⟩
    intro message member
    rcases List.mem_append.mp member with before | now
    · exact .inl before
    · split at now
      · obtain ⟨party, found, announced⟩ := List.mem_flatMap.mp now
        exact .inr ⟨event, party, Option.mem_toList.mp found, announced⟩
      · cases now
  | accountSubscribe _ _ _ => exact ⟨(plain fired).1, nofun, (plain fired).2⟩
  | signatureSubscribe _ _ _ _ _ => exact ⟨(plain fired).1, nofun, (plain fired).2⟩
  | send _ => exact ⟨(plain fired).1, nofun, (plain fired).2⟩
  | dispatch => exact ⟨(plain fired).1, nofun, (plain fired).2⟩
  | completed _ _ => exact ⟨(plain fired).1, nofun, (plain fired).2⟩
  | terminate => exact ⟨(plain fired).1, nofun, (plain fired).2⟩
  | iterate _ _ => exact ⟨(plain fired).1, nofun, (plain fired).2⟩
  | deliver _ => exact ⟨(plain fired).1, nofun, (plain fired).2⟩

/-- Every URL in the system that a connection is or will be opened to is vouched for, and
what the updater subscribes to is asked of the base chain. -/
structure Trust (lib : UpdaterLibrary) (upstreams : BaseChainUpstreams)
    (accounts : List RegistryNotification) (d : Deployment) (party : Party) (updater : Updater) :
    Prop where
  found : d.router.parties[0]? = some party
  phase : party.phase = .registry updater
  keeps : updater.Keeps upstreams (Vouched lib upstreams accounts party.arrived)
  outbox : ∀ sub, .dispatch sub ∈ party.outbox → sub.destination ∈ upstreams.urls
  states : ∀ message ∈ d.states, Vouched lib upstreams accounts party.arrived message.url
  attempts : ∀ attempt ∈ d.router.network.dispatcher.connections,
    Vouched lib upstreams accounts party.arrived attempt.1
  sessions : ∀ (pool : PoolId) (member : Nat) (session : Session),
    (d.router.network.members pool)[member]? = some session →
      Vouched lib upstreams accounts party.arrived session.connection.url
  queued : ∀ sub ∈ d.router.requests, sub.tx = ⟨0⟩ → sub.destination ∈ upstreams.urls
  entered : ∀ pool, ∀ sub ∈ d.router.network.entered pool, sub.tx = ⟨0⟩ →
    sub.destination ∈ upstreams.urls

namespace Trust

variable {party : Party} {updater : Updater}

/-- What the updater reads of a notification is vouched for. -/
theorem names (trust : Trust lib upstreams accounts d party updater)
    (conforms : d.router.Conforms) (request : RequestId) (upstream : PubSubUpstreamKind)
    (payload : Json) (pubkey : Pubkey) (account : Account)
    (waiting : .notification request upstream payload ∈ party.inbox)
    (reports : Updater.notified lib payload = some (pubkey, account)) (url : Url)
    (names : account.Names lib.toRegistryLibrary url) :
    Vouched lib upstreams accounts party.arrived url := by
  obtain ⟨taken, arrived, _⟩ := conforms.ordered _ _ trust.found
  have received : .notification request upstream payload ∈ party.arrived.map Prod.snd :=
    arrived ▸ List.mem_append_right _ waiting
  obtain ⟨⟨source, _⟩, entry, rfl⟩ := List.mem_map.mp received
  exact .notified entry reports names

theorem announces (trust : Trust lib upstreams accounts d party updater)
    (conforms : d.router.Conforms) {event : PartyEvent} {message : WsUpstreamState}
    (announced : message ∈ party.announces lib event) :
    Vouched lib upstreams accounts party.arrived message.url := by
  cases event with
  | message context probe =>
    simp only [Party.announces, trust.phase] at announced
    split at announced
    · rename_i same queued
      cases same
      refine (trust.keeps.receive lib _ probe ?_).2 message announced
      intro request upstream payload pubkey account same
      exact trust.names conforms request upstream payload pubkey account
        (queued ▸ same ▸ List.mem_cons_self)
    · cases announced
  | maintenance _ | closed _ | timeout => cases announced

/-- The first subscriber changes, and what it has received does not get less. -/
theorem exchange {next : Party} {after : Updater} {states : List WsUpstreamState}
    {router : Router} (trust : Trust lib upstreams accounts d party updater)
    (found : router.parties[0]? = some next) (phase : next.phase = .registry after)
    (grown : party.arrived ⊆ next.arrived)
    (keeps : after.Keeps upstreams (Vouched lib upstreams accounts next.arrived))
    (outbox : ∀ sub, .dispatch sub ∈ next.outbox → sub.destination ∈ upstreams.urls)
    (told : ∀ message ∈ states, Vouched lib upstreams accounts party.arrived message.url)
    (network : router.network = d.router.network)
    (queued : ∀ sub ∈ router.requests, sub.tx = ⟨0⟩ → sub.destination ∈ upstreams.urls) :
    Trust lib upstreams accounts { router, states } next after where
  found
  phase
  keeps
  outbox
  states message member := (told message member).mono grown
  attempts attempt member := (trust.attempts attempt (network ▸ member)).mono grown
  sessions pool member session present :=
    (trust.sessions pool member session (network ▸ present)).mono grown
  queued
  entered pool sub member := trust.entered pool sub (network ▸ member)

/-- The network takes a step, and the first subscriber none. -/
theorem network {change : Network.Action} {after : Network} {states : List WsUpstreamState}
    {router : Router} (trust : Trust lib upstreams accounts d party updater)
    (moved : Network.Step d.router.network change after)
    (found : router.parties[0]? = some party) (same : router.network = after)
    (told : ∀ message ∈ states, Vouched lib upstreams accounts party.arrived message.url)
    (asked : ∀ message, change = .state message → message ∈ d.states)
    (queued : ∀ sub ∈ router.requests, sub.tx = ⟨0⟩ → sub.destination ∈ upstreams.urls)
    (requested : ∀ request, change = .request request → request ∈ d.router.requests) :
    Trust lib upstreams accounts { router, states } party updater where
  found
  phase := trust.phase
  keeps := trust.keeps
  outbox := trust.outbox
  states := told
  attempts attempt member := by
    rcases moved.attempts attempt (same ▸ member) with before | ⟨message, named, url⟩
    · exact trust.attempts attempt before
    · exact url ▸ trust.states message (asked message named)
  sessions pool member session present := by
    rcases moved.sessions (same ▸ present) with ⟨before, held, url⟩ | ⟨attempt, pending, url⟩
    · exact url ▸ trust.sessions pool member before held
    · exact url ▸ trust.attempts attempt pending
  queued
  entered pool sub member := by
    rcases moved.entered pool with kept | ⟨request, named, grown⟩
    · exact trust.entered pool sub (kept ▸ same ▸ member)
    · have member : sub ∈ d.router.network.entered pool ++ [request] := grown ▸ same ▸ member
      rcases List.mem_append.mp member with earlier | now
      · exact trust.entered pool sub earlier
      · rw [List.mem_singleton.mp now]
        exact trust.queued request (requested request named)

theorem step (trust : Trust lib upstreams accounts d party updater) (conforms : d.router.Conforms)
    (fired : d.step lib transactionLib action = some t) :
    ∃ next after, Trust lib upstreams accounts t next after := by
  obtain ⟨moved, asked, states⟩ := step_sound fired
  have told : ∀ message ∈ t.states, Vouched lib upstreams accounts party.arrived message.url := by
    intro message member
    rcases states message member with before | ⟨event, other, found, announced⟩
    · exact trust.states message before
    · cases trust.found.symm.trans found
      exact trust.announces conforms announced
  obtain ⟨router, messages⟩ := t
  simp only at moved told
  -- steps of others leave the updater where it is
  have stays {router : Router} (found : router.parties[0]? = some party)
      (network : router.network = d.router.network)
      (queued : ∀ sub ∈ router.requests, sub.tx = ⟨0⟩ → sub.destination ∈ upstreams.urls) :
      ∃ next after, Trust lib upstreams accounts { router, states := messages } next after :=
    ⟨party, updater, trust.exchange found trust.phase (List.Subset.refl _) trust.keeps trust.outbox
      told network queued⟩
  have elsewhere {number : Nat} (other : number ≠ 0) (next : Party) :
      (d.router.parties.set number next)[0]? = some party :=
    (List.getElem?_set_ne other).trans trust.found
  have here {found : Party} (present : d.router.parties[0]? = some found) (next : Party) :
      (d.router.parties.set 0 next)[0]? = some next :=
    List.getElem?_set_self (List.getElem?_eq_some_iff.mp present).1
  cases Router.step_sound moved with
  | join => exact stays (Router.joined_stays trust.found) rfl trust.queued
  | refuse => exact stays trust.found rfl trust.queued
  | @party number own next event found stepped =>
    by_cases first : number = 0
    · subst first
      cases trust.found.symm.trans found
      obtain ⟨after, phase, keeps, outbox⟩ :=
        Party.registry_step trust.phase trust.keeps (trust.names conforms) stepped
      have advances : Party.Advances ⟨0⟩ party next := Party.step_advances stepped
      have same : next.arrived = party.arrived := advances.history.1
      refine ⟨next, after, trust.exchange (here found next) phase ?_ ?_ outbox told rfl trust.queued⟩
      · rw [same]
        exact List.Subset.refl _
      · rw [same]
        exact keeps
    · exact stays (elsewhere first next) rfl trust.queued
  | @send number own first rest found waiting =>
    have queued (sub : Subscription) (dispatch : first = .dispatch sub) (tx : sub.tx = ⟨0⟩) :
        sub.destination ∈ upstreams.urls := by
      have listed : .dispatch sub ∈ own.outbox := by
        rw [waiting, dispatch]
        exact List.mem_cons_self
      have mine := ((conforms.dutiful _ _ found).own sub listed).tx
      rw [tx] at mine
      injection mine with zero
      subst zero
      cases trust.found.symm.trans found
      exact trust.outbox sub listed
    have requests : ∀ sub ∈ (d.router.effect number { own with outbox := rest } first).requests,
        sub.tx = ⟨0⟩ → sub.destination ∈ upstreams.urls := by
      intro sub member
      cases first with
      | dispatch sent =>
        rcases List.mem_append.mp member with earlier | now
        · exact trust.queued sub earlier
        · rw [List.mem_singleton.mp now]
          exact queued sent rfl
      | unsubscribe _ _ | notify _ | report _ => exact trust.queued sub member
    obtain ⟨next, parties, network, phase, arrived, outbox⟩ :=
      Router.effect_replaces d.router number { own with outbox := rest } first
    by_cases zero : number = 0
    · subst zero
      cases trust.found.symm.trans found
      refine ⟨next, updater, trust.exchange ?_ (phase.trans trust.phase) ?_ ?_ ?_ told network
        requests⟩
      · rw [parties]
        exact here found next
      · rw [arrived]
        exact List.Subset.refl _
      · rw [arrived]
        exact trust.keeps
      · intro sub member
        rw [outbox] at member
        exact trust.outbox sub (waiting ▸ List.mem_cons_of_mem _ member)
    · refine stays ?_ network requests
      rw [parties]
      exact elsewhere zero next
  | network changed connects requests named =>
    exact ⟨party, updater, trust.network (Network.step_sound changed) trust.found rfl told
      (fun message same => asked message (named message same)) trust.queued
      fun request same => absurd same (requests request)⟩
  | @dispatch oldest rest after waiting changed =>
    have listed := trust.queued
    rw [waiting] at listed
    refine ⟨party, updater, trust.network (Network.step_sound changed) trust.found rfl told
      nofun (fun sub member => listed sub (List.mem_cons_of_mem _ member)) ?_⟩
    rintro _ ⟨⟩
    rw [waiting]
    exact List.mem_cons_self
  | iterate idle found unsubscribes changed =>
    exact ⟨party, updater, trust.network (Network.step_sound changed) trust.found rfl told
      nofun trust.queued nofun⟩
  | lose => exact stays trust.found rfl trust.queued
  | @deliver source tx message rest own carried found =>
    by_cases zero : tx.id = 0
    · rw [zero] at found ⊢
      cases trust.found.symm.trans found
      have grown : party.arrived ⊆ (party.accept source message).arrived := by
        unfold Party.accept
        split
        · exact List.Subset.refl _
        · exact List.subset_append_left _ _
      have same : (party.accept source message).phase = party.phase ∧
          (party.accept source message).outbox = party.outbox := by
        unfold Party.accept
        split
        · exact ⟨rfl, rfl⟩
        · exact ⟨rfl, rfl⟩
      refine ⟨_, updater, trust.exchange (here found _) (same.1.trans trust.phase) grown
        (trust.keeps.mono fun url vouched => vouched.mono grown) ?_ told rfl trust.queued⟩
      rw [same.2]
      exact trust.outbox
    · exact stays (elsewhere zero _) rfl trust.queued

theorem initial (lib : UpdaterLibrary) (upstreams : BaseChainUpstreams) (staleAfter : Nat)
    (static : Option Pubkey) (accounts : List RegistryNotification) (requestId : RequestId)
    (subscriberId : SubscriberId) (count : Nat) :
    ∃ party updater, Trust lib upstreams accounts
      (new lib upstreams staleAfter static accounts requestId subscriberId count) party updater := by
  have empty : (RoutingTable.initial upstreams staleAfter static).baseChain.2.Trusts
      (Vouched lib upstreams accounts []) := by
    intro identity upstream found
    cases found
  obtain ⟨nodes, announced⟩ := empty.follow lib.toRegistryLibrary fun entry listed url =>
    .read listed
  have chain := ((RoutingTable.initial upstreams staleAfter static).baseChain.2.follow_sameChain
    lib.toRegistryLibrary accounts).1
  have destination := Updater.Keeps.baseChain_mem chain
  refine ⟨_, _, rfl, rfl, ⟨chain, nodes, destination⟩, ?_, ?_, ?_, ?_, ?_, ?_⟩
  · intro sub member
    cases List.mem_singleton.mp member
    exact destination
  · intro message member
    rcases List.mem_append.mp member with base | node
    · obtain ⟨upstream, listed, rfl⟩ := List.mem_map.mp base
      exact .configured (List.mem_map_of_mem listed)
    · exact announced message node
  · exact List.forall_mem_nil _
  · intro pool member session found
    cases found
  · exact List.forall_mem_nil _
  · exact fun _ => List.forall_mem_nil _

end Trust

variable {staleAfter : Nat} {static : Option Pubkey} {requestId : RequestId}
variable {subscriberId : SubscriberId}

/-- In every run of a deployment, the router goes through a run of its own. -/
theorem router_run (run : Run (Fires (step lib transactionLib))
    (new lib upstreams staleAfter static accounts requestId subscriberId count) actions d) :
    ∃ labels, Run (Fires (Router.step lib transactionLib)) (.new count) labels d.router := by
  induction run with
  | nil =>
    have started : Router.step lib transactionLib (.new count)
        (.registry (table lib upstreams staleAfter static accounts) requestId subscriberId) =
          some (new lib upstreams staleAfter static accounts requestId subscriberId count).router :=
      rfl
    exact ⟨_, .single started⟩
  | snoc _ last ih =>
    obtain ⟨labels, moved⟩ := ih
    exact ⟨_, .snoc moved (step_sound last).1⟩

theorem Trust.reached (run : Run (Fires (Deployment.step lib transactionLib))
    (new lib upstreams staleAfter static accounts requestId subscriberId count) actions d) :
    ∃ party updater, Trust lib upstreams accounts d party updater := by
  induction run with
  | nil => exact initial lib upstreams staleAfter static accounts requestId subscriberId count
  | snoc earlier last ih =>
    obtain ⟨party, updater, trust⟩ := ih
    obtain ⟨labels, moved⟩ := router_run earlier
    exact trust.step (.reached moved) last

/-- In every run of a deployment, every connection is to a base-chain URL of the
configuration, or to a URL named by a registry record that was read at start-up or that
the updater was notified of; and all that the updater receives comes over connections to
base-chain URLs of the configuration. -/
theorem connections_vouched_for (run : Run (Fires (step lib transactionLib))
    (new lib upstreams staleAfter static accounts requestId subscriberId count) actions d) :
    ∃ party updater, d.router.parties[0]? = some party ∧ party.phase = .registry updater ∧
      (∀ (source : Source) (session : Session),
        (d.router.network.members source.pool)[source.member]? = some session →
          Vouched lib upstreams accounts party.arrived session.connection.url) ∧
      ∀ source message, (source, message) ∈ party.arrived → ∃ session,
        (d.router.network.members source.pool)[source.member]? = some session ∧
          session.connection.url ∈ upstreams.urls := by
  obtain ⟨party, updater, trust⟩ := Trust.reached run
  obtain ⟨labels, ran⟩ := router_run run
  obtain ⟨changes, moved⟩ := Router.network_run ran
  refine ⟨party, updater, trust.found, trust.phase, ?_, ?_⟩
  · intro source session present
    exact trust.sessions _ _ session present
  · intro source message arrived
    obtain ⟨session, subscriber, before, after, present, parts, address, origin⟩ :=
      Router.arrived_origin (.reached ran) moved trust.found arrived
    refine ⟨session, present, ?_⟩
    -- the subscription that the connection answers was given to its pool
    obtain ⟨sub, taken, tx⟩ := origin.taken
    have logged : .take sub ∈ session.log.map Emission.deed := by
      rw [parts]
      exact List.mem_append_left _ taken
    have entered := Network.taken_entered (.reached moved) present logged
    rw [address, ← ((Network.Coupled.reached moved).staffed _).addressed sub entered]
    exact trust.entered _ sub entered tx

/-- A registry whose one node is notified after start-up. -/
def beforeNode : Deployment :=
  new Measured.movingLibrary RoutingTable.relocationUpstreams 0 none [] ⟨1⟩ ⟨2⟩ 1

/-- The updater's subscription. -/
def registrySub : Subscription :=
  (Updater.start Measured.movingLibrary
    (table Measured.movingLibrary RoutingTable.relocationUpstreams 0 none []) ⟨1⟩ ⟨2⟩ ⟨0⟩).1.subscription

/-- The base chain reports the account of the node. -/
def programNotification (subid : SubscriptionId) : Json :=
  .obj [("method", .str "programNotification"),
    ("params", .obj [("result", .obj [("value", .obj [("pubkey", .str "pda"),
      ("account", .num 1)])]), ("subscription", .num subid)])]

/-- The updater subscribes at the base chain, is notified of the node, and the router
connects to it. -/
def nodeAppears : List Router.Action :=
  [.state { isOnline := true, url := ⟨"wss", "//chain"⟩, target := .chain }, .completed 0 [true],
    .send 0, .dispatch, .iterate ⟨0, 0⟩ (calm (.request registrySub)),
    .iterate ⟨0, 0⟩ (calm (.received (.data (some (confirmation 1 5))))), .deliver ⟨0, 0⟩,
    .party 0 (.message HandlerRun.undelegatedContext true),
    .iterate ⟨0, 0⟩ (calm (.received (.data (some (programNotification 5))))), .deliver ⟨0, 0⟩,
    .party 0 (.message HandlerRun.undelegatedContext true),
    .state { isOnline := true, url := ⟨"wss", "//one.er"⟩, target := .ephem }, .completed 0 [true]]

theorem connections_vouched_for_node :
    ∃ d party session, Run (Fires (step Measured.movingLibrary Subscriber.sampleTransactionLibrary))
        beforeNode nodeAppears d ∧
      d.router.parties[0]? = some party ∧ (d.router.network.members 1)[0]? = some session ∧
      session.connection.url = ⟨"wss", "//one.er"⟩ ∧
      Vouched Measured.movingLibrary RoutingTable.relocationUpstreams [] party.arrived
        session.connection.url := by
  obtain ⟨d, run, checked⟩ := exists_run_of_exec
    (show (exec (step Measured.movingLibrary Subscriber.sampleTransactionLibrary) beforeNode
      nodeAppears).map (fun d => ((d.router.network.members 1)[0]?).any fun session =>
        decide (session.connection.url = ⟨"wss", "//one.er"⟩)) = some true by decide +kernel)
  obtain ⟨session, present, url⟩ := (Option.any_eq_true _ _).mp checked
  obtain ⟨party, _, found, _, vouched, _⟩ := connections_vouched_for run
  exact ⟨d, party, session, run, found, present, of_decide_eq_true url, vouched ⟨1, 0⟩ session present⟩

end Deployment

end MagicRouter
