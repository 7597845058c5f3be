import MagicRouter.Cache.Proximity

/-! The closest node. A record's proximity is a moving average of the pings credited to
it since it was last unknown; it stays among them, and a record is fresh only with a
known one, which is what the selection rests on. -/

namespace MagicRouter

open Library

/-- The longest ping, in microseconds, for which the average cannot overflow. -/
def LONGEST_PING : Nat := (UInt64.size - 1) / 100

def PingResult.duration : PingResult → Option Nat
  | .ok duration _ => some duration
  | .err => none

/-- The ping took no longer than the average can bear. -/
def PingResult.Brief (result : PingResult) : Prop :=
  ∀ duration ∈ result.duration, duration ≤ LONGEST_PING

namespace UpstreamRecord

/-- A record and the durations credited to it since its proximity was last unknown. -/
def credit (credited : UpstreamRecord × List Nat) (result : PingResult) :
    UpstreamRecord × List Nat :=
  let record := credited.1.settle result
  (record, if record.proximityMicros = unknownProximity then []
    else credited.2 ++ result.duration.toList)

/-- The durations credited to a record in the course of the given pings. -/
def credits (record : UpstreamRecord) (results : List PingResult) : List Nat :=
  (results.foldl credit (record, [])).2

/-- What holds of a record and the durations credited to it. -/
structure Averages (record : UpstreamRecord) (credited : List Nat) : Prop where
  brief : ∀ duration ∈ credited, duration ≤ LONGEST_PING
  unknown : record.proximityMicros = unknownProximity → credited = []
  within : record.proximityMicros ≠ unknownProximity → ∃ shortest longest,
    credited.min? = some shortest ∧ credited.max? = some longest ∧
      shortest ≤ record.proximityMicros.toNat ∧ record.proximityMicros.toNat ≤ longest
  /-- a measured record is unknown only after too many failures -/
  measured : record.lastProximityUpdate.isSome →
    record.consecutivePingFailures < MAX_PROXIMITY_PING_FAILURES →
      record.proximityMicros ≠ unknownProximity

variable {record : UpstreamRecord} {credited : List Nat} {duration : Nat}

theorem toNat_unknownProximity : unknownProximity.toNat = UInt64.size - 1 := by decide

theorem ne_unknown_of_le {proximity : UInt64} (small : proximity.toNat ≤ LONGEST_PING) :
    proximity ≠ unknownProximity := by
  rintro rfl
  rw [toNat_unknownProximity] at small
  exact absurd small (by decide)

theorem Averages.fresh (client : RpcClient) (wsUrl : Url) (info : Option RouteInfo) :
    Averages (fresh client wsUrl info) [] where
  brief _ member := by cases member
  unknown _ := rfl
  within known := absurd rfl known
  measured once := by cases once

/-- A known proximity is short enough for the next average. -/
theorem Averages.proximity_le (averages : Averages record credited)
    (known : record.proximityMicros ≠ unknownProximity) :
    record.proximityMicros.toNat ≤ LONGEST_PING := by
  obtain ⟨_, longest, _, greatest, _, below⟩ := averages.within known
  exact Nat.le_trans below (averages.brief longest (List.max?_eq_some_iff.mp greatest).1)

theorem average_lt {proximity : Nat} (small : proximity ≤ LONGEST_PING)
    (brief : duration ≤ LONGEST_PING) : proximity * 85 + duration * 15 < UInt64.size := by
  have bound : LONGEST_PING * 100 < UInt64.size := by decide
  omega

/-- The moving average is computed without wrapping around. -/
theorem toNat_average {proximity : UInt64} (small : proximity.toNat ≤ LONGEST_PING)
    (brief : duration ≤ LONGEST_PING) :
    ((proximity * 85 + UInt64.ofNat duration * 15) / 100).toNat =
      (proximity.toNat * 85 + duration * 15) / 100 := by
  have fits : proximity.toNat * 85 + duration * 15 < 2 ^ 64 := average_lt small brief
  have size : duration < UInt64.size := by
    have bound : LONGEST_PING < UInt64.size := by decide
    omega
  rw [UInt64.toNat_div, UInt64.toNat_add, UInt64.toNat_mul, UInt64.toNat_mul,
    UInt64.toNat_ofNat_of_lt' size]
  change (proximity.toNat * 85 % 2 ^ 64 + duration * 15 % 2 ^ 64) % 2 ^ 64 / 100 = _
  rw [← Nat.add_mod, Nat.mod_eq_of_lt fits]

/-- What lies between the extremes and one more duration lies between the new
extremes. -/
theorem exists_extremes {shortest longest value : Nat} (least : credited.min? = some shortest)
    (greatest : credited.max? = some longest) (above : min shortest duration ≤ value)
    (below : value ≤ max longest duration) :
    ∃ shortest longest, (credited ++ [duration]).min? = some shortest ∧
      (credited ++ [duration]).max? = some longest ∧ shortest ≤ value ∧ value ≤ longest := by
  obtain ⟨first, lower⟩ := List.min?_eq_some_iff.mp least
  obtain ⟨last, upper⟩ := List.max?_eq_some_iff.mp greatest
  refine ⟨min shortest duration, max longest duration, ?_, ?_, above, below⟩
  · apply List.min?_eq_some_iff.mpr
    constructor
    · rcases Nat.le_total shortest duration with le | le
      · simp [Nat.min_eq_left le, first]
      · simp [Nat.min_eq_right le]
    · intro other member
      rcases List.mem_append.mp member with old | new
      · exact Nat.le_trans (Nat.min_le_left ..) (lower other old)
      · exact Nat.le_trans (Nat.min_le_right ..) (Nat.le_of_eq (List.mem_singleton.mp new).symm)
  · apply List.max?_eq_some_iff.mpr
    constructor
    · rcases Nat.le_total longest duration with le | le
      · simp [Nat.max_eq_right le]
      · simp [Nat.max_eq_left le, last]
    · intro other member
      rcases List.mem_append.mp member with old | new
      · exact Nat.le_trans (upper other old) (Nat.le_max_left ..)
      · exact Nat.le_trans (Nat.le_of_eq (List.mem_singleton.mp new)) (Nat.le_max_right ..)

theorem Averages.updateProximity (averages : Averages record credited)
    (brief : duration ≤ LONGEST_PING) (now : Nat) :
    Averages (record.updateProximity duration now) (credited ++ [duration]) := by
  have durations : ∀ other ∈ credited ++ [duration], other ≤ LONGEST_PING := by
    intro other member
    rcases List.mem_append.mp member with old | new
    · exact averages.brief other old
    · exact List.mem_singleton.mp new ▸ brief
  by_cases unknown : record.proximityMicros = unknownProximity
  · have first : credited = [] := averages.unknown unknown
    have proximity : ((record.updateProximity duration now).proximityMicros).toNat = duration := by
      have size : duration < UInt64.size := Nat.lt_of_le_of_lt brief (by decide)
      simp [UpstreamRecord.updateProximity, unknown, UInt64.toNat_ofNat_of_lt' size]
    have known := ne_unknown_of_le (proximity ▸ brief)
    refine ⟨durations, fun unknown => absurd unknown known, fun _ => ?_, fun _ _ => known⟩
    exact ⟨duration, duration, by simp [first], by simp [first], Nat.le_of_eq proximity.symm,
      Nat.le_of_eq proximity⟩
  · have small := averages.proximity_le unknown
    have proximity : ((record.updateProximity duration now).proximityMicros).toNat =
        (record.proximityMicros.toNat * 85 + duration * 15) / 100 := by
      rw [← toNat_average small brief]
      simp [UpstreamRecord.updateProximity, unknown]
    have known : (record.updateProximity duration now).proximityMicros ≠ unknownProximity := by
      apply ne_unknown_of_le
      rw [proximity]
      omega
    refine ⟨durations, fun unknown => absurd unknown known, fun _ => ?_, fun _ _ => known⟩
    obtain ⟨shortest, longest, least, greatest, above, below⟩ := averages.within unknown
    rw [proximity]
    exact exists_extremes least greatest (by omega) (by omega)

/-- A failure keeps the proximity, or makes it unknown because it was one too many. -/
theorem registerPingFailure_cases (record : UpstreamRecord) :
    record.registerPingFailure.lastProximityUpdate = record.lastProximityUpdate ∧
    (record.registerPingFailure.proximityMicros = record.proximityMicros ∧
        (record.registerPingFailure.consecutivePingFailures < MAX_PROXIMITY_PING_FAILURES →
          record.consecutivePingFailures < MAX_PROXIMITY_PING_FAILURES) ∨
      record.registerPingFailure.proximityMicros = unknownProximity ∧
        ¬ record.registerPingFailure.consecutivePingFailures < MAX_PROXIMITY_PING_FAILURES) := by
  refine ⟨rfl, ?_⟩
  unfold registerPingFailure MAX_PROXIMITY_PING_FAILURES
  dsimp only
  split <;> split
  · grind
  · grind
  · grind
  · grind

theorem Averages.registerPingFailure (averages : Averages record credited) :
    Averages record.registerPingFailure
      (if record.registerPingFailure.proximityMicros = unknownProximity then [] else credited) := by
  obtain ⟨last, ⟨kept, fewer⟩ | ⟨lost, many⟩⟩ := registerPingFailure_cases record
  · have same : (if record.registerPingFailure.proximityMicros = unknownProximity then []
        else credited) = credited := by
      rw [kept]
      split
      · exact (averages.unknown ‹_›).symm
      · rfl
    rw [same]
    refine ⟨averages.brief, ?_, ?_, ?_⟩
    · rw [kept]
      exact averages.unknown
    · rw [kept]
      exact averages.within
    · rw [kept, last]
      intro once few
      exact averages.measured once (fewer few)
  · rw [if_pos lost]
    refine ⟨by simp, fun _ => rfl, fun known => absurd lost known, fun _ few => absurd few many⟩

/-- Crediting a ping keeps the average among the credited durations. -/
theorem Averages.credit (averages : Averages record credited) {result : PingResult}
    (brief : result.Brief) :
    Averages (credit (record, credited) result).1 (credit (record, credited) result).2 := by
  cases result with
  | ok duration now =>
    have updated := averages.updateProximity (brief duration rfl) now
    have known : (record.updateProximity duration now).proximityMicros ≠ unknownProximity := by
      intro unknown
      exact absurd (updated.unknown unknown) (by simp)
    have same : (UpstreamRecord.credit (record, credited) (.ok duration now)).2 =
        credited ++ [duration] := if_neg known
    rw [same]
    exact updated
  | err =>
    have same : (UpstreamRecord.credit (record, credited) .err).2 =
        if record.registerPingFailure.proximityMicros = unknownProximity then []
        else credited := by
      simp [UpstreamRecord.credit, settle, PingResult.duration]
    rw [same]
    exact averages.registerPingFailure

theorem Averages.foldl (averages : Averages record credited) (results : List PingResult)
    (brief : ∀ result ∈ results, result.Brief) :
    Averages (results.foldl UpstreamRecord.credit (record, credited)).1
      (results.foldl UpstreamRecord.credit (record, credited)).2 := by
  induction results generalizing record credited with
  | nil => exact averages
  | cons result rest ih =>
    have here : result.Brief := brief result (by simp)
    have later : ∀ result ∈ rest, result.Brief := by
      intro result member
      exact brief result (List.mem_cons_of_mem _ member)
    exact ih (averages.credit here) later

theorem foldl_credit_fst (credited : List Nat) (record : UpstreamRecord)
    (results : List PingResult) :
    (results.foldl credit (record, credited)).1 = results.foldl settle record := by
  induction results generalizing record credited with
  | nil => rfl
  | cons result rest ih => exact ih _ _

/-- Only a fresh proximity that is known is compared. -/
theorem Averages.known_of_fresh {now staleAfter : Nat} (averages : Averages record credited)
    (fresh : record.hasFreshProximity now staleAfter = true) :
    record.proximityMicros ≠ unknownProximity := by
  unfold hasFreshProximity at fresh
  split at fresh
  · cases fresh
  · rename_i few
    split at fresh
    · cases fresh
    · rename_i updatedAt last
      exact averages.measured (by simp [last]) (by grind)

end UpstreamRecord

/-- The base-chain upstreams that `RoutingTable::new` builds from the configured URLs, each
with the outcome of its probe. `none` is a panic: an invalid URL, or none at all. -/
def BaseChainUpstreams.new (lib : UrlLibrary) (urls : List (Url × Bool)) :
    Option BaseChainUpstreams :=
  match urls.mapM fun url => UpstreamRecord.newFromUrl lib url.2 url.1 none with
  | none => none
  | some upstreams =>
    if present : 0 < upstreams.length then some { upstreams, next := 0, next_lt := present }
    else none

theorem UpstreamRecord.newFromUrl_target {lib : UrlLibrary} {probe : Bool} {fqdn : Url}
    {info : Option RouteInfo} {upstream : UpstreamRecord}
    (built : newFromUrl lib probe fqdn info = some upstream) :
    upstream.client.target = if info.isSome then .er else .chain := by
  simp only [newFromUrl] at built
  split at built
  · obtain ⟨_, _, rfl⟩ := Option.map_eq_some_iff.mp built
    rfl
  · cases built

theorem BaseChainUpstreams.new_target {lib : UrlLibrary} {urls : List (Url × Bool)}
    {chain : BaseChainUpstreams} (built : BaseChainUpstreams.new lib urls = some chain) :
    ∀ upstream ∈ chain.upstreams, upstream.client.target = .chain := by
  have targets (upstreams : List UpstreamRecord)
      (made : (urls.mapM fun url => UpstreamRecord.newFromUrl lib url.2 url.1 none) = some upstreams) :
      ∀ upstream ∈ upstreams, upstream.client.target = .chain := by
    clear built
    induction urls generalizing upstreams with
    | nil =>
      cases made
      simp
    | cons url rest ih =>
      simp only [List.mapM_cons, Option.bind_eq_bind, Option.bind_eq_some_iff, Option.pure_def,
        Option.some.injEq] at made
      obtain ⟨first, here, others, there, rfl⟩ := made
      intro upstream member
      rcases List.mem_cons.mp member with rfl | later
      · exact UpstreamRecord.newFromUrl_target here
      · exact ih others there upstream later
  unfold BaseChainUpstreams.new at built
  split at built
  · cases built
  · rename_i upstreams made
    split at built
    · cases built
      exact targets upstreams made
    · cases built

theorem UpstreamRecord.newFromErRecord_target {lib : UrlLibrary} {record : ErRecord}
    {upstream : UpstreamRecord} {probe : Bool}
    (built : newFromErRecord lib probe record = some upstream) : upstream.client.target = .er := by
  simp only [newFromErRecord, Option.bind_eq_bind, Option.bind_eq_some_iff] at built
  obtain ⟨fqdn, _, made⟩ := built
  exact newFromUrl_target made

theorem RoutingTable.registers_target {lib : RegistryLibrary} {table : RoutingTable}
    {account : Account} {probe : Bool} {identity : Pubkey} {upstream : UpstreamRecord}
    (entered : table.registers lib account probe = some (identity, upstream)) :
    upstream.client.target = .er := by
  simp only [registers, Option.bind_eq_bind, Option.bind_eq_some_iff] at entered
  obtain ⟨_, _, _, built, same⟩ := entered
  split at same
  · cases same
    exact UpstreamRecord.newFromErRecord_target built
  · cases same

@[simp] theorem UpstreamRecord.settle_client (record : UpstreamRecord) (result : PingResult) :
    (record.settle result).client = record.client := by
  cases result <;> rfl

/-- Registry records leave the base chain, its turn and the static identity as they are. -/
theorem RoutingTable.insertEntry_chain (lib : RegistryLibrary) (table : RoutingTable)
    (pubkey : Pubkey) (account : Account) (probe : Bool) :
    (table.insertEntry lib pubkey account probe).1.baseChainUpstreams = table.baseChainUpstreams ∧
      (table.insertEntry lib pubkey account probe).1.staticErIdentity = table.staticErIdentity := by
  unfold insertEntry
  split
  · split
    · unfold removeEntry
      split
      · exact ⟨rfl, rfl⟩
      · dsimp only
        split <;> exact ⟨rfl, rfl⟩
    · exact ⟨rfl, rfl⟩
  · split <;> exact ⟨rfl, rfl⟩

/-- Notifications and pings change neither the base chain nor the static identity. -/
def RoutingTable.SameChain (table table' : RoutingTable) : Prop :=
  table'.baseChainUpstreams.upstreams = table.baseChainUpstreams.upstreams ∧
    table'.staticErIdentity = table.staticErIdentity

theorem RoutingTable.insertEntry_sameChain (lib : RegistryLibrary) (table : RoutingTable)
    (pubkey : Pubkey) (account : Account) (probe : Bool) :
    table.SameChain (table.insertEntry lib pubkey account probe).1 := by
  obtain ⟨chain, static⟩ := insertEntry_chain lib table pubkey account probe
  exact ⟨by rw [chain], static⟩

theorem RoutingTable.follow_sameChain (lib : RegistryLibrary) (table : RoutingTable)
    (notifications : List RegistryNotification) : table.SameChain (table.follow lib notifications) := by
  induction notifications generalizing table with
  | nil => exact ⟨rfl, rfl⟩
  | cons notification rest ih =>
    obtain ⟨upstreams, identity⟩ := ih (table.insertEntry lib notification.pubkey
      notification.account notification.probe).1
    obtain ⟨upstreams', identity'⟩ := table.insertEntry_sameChain lib notification.pubkey
      notification.account notification.probe
    exact ⟨upstreams.trans upstreams', identity.trans identity'⟩

theorem Updater.handle_sameChain {lib : UpdaterLibrary} {u : Updater} {event : UpdaterEvent}
    {next : Updater × UpdaterOutput} (handled : u.handle lib event = some next) :
    u.table.SameChain next.1.table := by
  cases event with
  | message msg probe =>
    cases handled
    cases msg with
    | subscribed _ | disconnected _ => exact ⟨rfl, rfl⟩
    | notification _ _ payload =>
      unfold receive
      dsimp only
      split
      · exact ⟨rfl, rfl⟩
      · exact RoutingTable.insertEntry_sameChain ..
  | ping index result =>
    simp only [handle] at handled
    split at handled
    · cases handled
    · cases handled
      unfold settle
      split <;> exact ⟨rfl, rfl⟩
  | tick =>
    simp only [handle] at handled
    split at handled <;> cases handled <;> exact ⟨rfl, rfl⟩

namespace RoutingTable

/-- A node of the table whose proximity is fresh. -/
def Fresh (table : RoutingTable) (now : Nat) (identity : Pubkey) (record : UpstreamRecord) : Prop :=
  table.inner.lookup identity = some record ∧
    record.hasFreshProximity now table.proximityStaleAfter = true

theorem closer_cases (now staleAfter : Nat) (closest : (Pubkey × RpcClient) × UInt64)
    (node : Pubkey × UpstreamRecord) :
    closer now staleAfter closest node = closest ∧
        (node.2.hasFreshProximity now staleAfter = true → closest.2 ≤ node.2.proximityMicros) ∨
      node.2.hasFreshProximity now staleAfter = true ∧ node.2.proximityMicros < closest.2 ∧
        closer now staleAfter closest node = ((node.1, node.2.client), node.2.proximityMicros) := by
  unfold closer
  by_cases fresh : node.2.hasFreshProximity now staleAfter = true
  · by_cases least : closest.2 ≤ node.2.proximityMicros
    · exact .inl ⟨by simp [fresh, least], fun _ => least⟩
    · exact .inr ⟨fresh, UInt64.not_le.mp least, by simp [fresh, least]⟩
  · exact .inl ⟨by simp [fresh], fun isFresh => absurd isFresh fresh⟩

/-- The loop keeps what it has or takes a fresh node, and nothing fresh is closer. -/
theorem foldl_closer (now staleAfter : Nat) (order : List (Pubkey × UpstreamRecord))
    (closest : (Pubkey × RpcClient) × UInt64) :
    (order.foldl (closer now staleAfter) closest = closest ∨
      ∃ node ∈ order, node.2.hasFreshProximity now staleAfter = true ∧
        order.foldl (closer now staleAfter) closest =
          ((node.1, node.2.client), node.2.proximityMicros)) ∧
    (order.foldl (closer now staleAfter) closest).2 ≤ closest.2 ∧
    ∀ node ∈ order, node.2.hasFreshProximity now staleAfter = true →
      (order.foldl (closer now staleAfter) closest).2 ≤ node.2.proximityMicros := by
  induction order generalizing closest with
  | nil => exact ⟨.inl rfl, UInt64.le_refl _, by simp⟩
  | cons node rest ih =>
    obtain ⟨chosen, below, least⟩ := ih (closer now staleAfter closest node)
    rw [List.foldl_cons]
    rcases closer_cases now staleAfter closest node with ⟨kept, bound⟩ | ⟨fresh, nearer, taken⟩
    · rw [kept] at chosen below least ⊢
      refine ⟨?_, below, ?_⟩
      · rcases chosen with same | ⟨other, member, fresh, same⟩
        · exact .inl same
        · exact .inr ⟨other, List.mem_cons_of_mem _ member, fresh, same⟩
      · intro other member fresh
        rcases List.mem_cons.mp member with rfl | later
        · exact UInt64.le_trans below (bound fresh)
        · exact least other later fresh
    · rw [taken] at chosen below least ⊢
      refine ⟨?_, UInt64.le_trans below (UInt64.le_of_lt nearer), ?_⟩
      · rcases chosen with same | ⟨other, member, isFresh, same⟩
        · exact .inr ⟨node, by simp, fresh, same⟩
        · exact .inr ⟨other, List.mem_cons_of_mem _ member, isFresh, same⟩
      · intro other member isFresh
        rcases List.mem_cons.mp member with rfl | later
        · exact below
        · exact least other later isFresh

theorem eq_unknown_of_le {proximity : UInt64} (above : unknownProximity ≤ proximity) :
    proximity = unknownProximity := by
  have below := proximity.toNat_lt
  rw [UInt64.le_iff_toNat_le, UpstreamRecord.toNat_unknownProximity] at above
  apply UInt64.toNat.inj
  rw [UpstreamRecord.toNat_unknownProximity]
  change 2 ^ 64 - 1 ≤ proximity.toNat at above
  change proximity.toNat = 2 ^ 64 - 1
  omega

/-- What `closest_node` has to answer: the nearest of the fresh nodes, or the upstream whose
turn it is, under the default key, exactly if no node is fresh. -/
structure Selects (table : RoutingTable) (now : Nat) (node : Pubkey × RpcClient) : Prop where
  nearest : (∃ identity record, table.Fresh now identity record) →
    ∃ record, table.Fresh now node.1 record ∧ node.2 = record.client ∧
      ∀ identity other, table.Fresh now identity other →
        record.proximityMicros ≤ other.proximityMicros
  chain_iff : node = (Pubkey.default, table.baseChain.1.client) ↔
    ∀ identity record, ¬ table.Fresh now identity record

/-- The order walked is one of all nodes. -/
theorem mem_order_iff {table : RoutingTable} {order : List (Pubkey × UpstreamRecord)}
    (walked : order.Perm (table.inner.entries.map fun entry => (entry.1, entry.2)))
    {identity : Pubkey} {record : UpstreamRecord} :
    (identity, record) ∈ order ↔ table.inner.lookup identity = some record := by
  rw [walked.mem_iff, List.mem_map, ← Store.mem_entries_iff]
  constructor
  · intro member
    obtain ⟨entry, member, same⟩ := member
    cases same
    exact member
  · intro member
    exact ⟨_, member, rfl⟩

/-- The selection in a table whose fresh nodes have known proximities. -/
theorem closestNode_selects {table : RoutingTable} {now : Nat}
    {order : List (Pubkey × UpstreamRecord)} (dynamic : table.staticErIdentity = none)
    (walked : order.Perm (table.inner.entries.map fun entry => (entry.1, entry.2)))
    (known : ∀ identity record, table.Fresh now identity record →
      record.proximityMicros ≠ unknownProximity)
    (nodes : ∀ identity record, table.inner.lookup identity = some record →
      record.client.target = .er)
    (chain : ∀ upstream ∈ table.baseChainUpstreams.upstreams, upstream.client.target = .chain) :
    ∃ node, table.closestNode now order = .ok (node, table.baseChain.2) ∧
      table.Selects now node := by
  obtain ⟨chosen, _, least⟩ := foldl_closer now table.proximityStaleAfter order
    ((Pubkey.default, table.baseChain.1.client), unknownProximity)
  generalize selected : order.foldl (closer now table.proximityStaleAfter)
    ((Pubkey.default, table.baseChain.1.client), unknownProximity) = result at chosen least
  have answered : table.closestNode now order = .ok (result.1, table.baseChain.2) := by
    rw [closestNode, dynamic, ← selected]
    rfl
  have nearest (identity : Pubkey) (record : UpstreamRecord)
      (fresh : table.Fresh now identity record) :
      ∃ record, table.Fresh now result.1.1 record ∧ result.1.2 = record.client ∧
        ∀ identity other, table.Fresh now identity other →
          record.proximityMicros ≤ other.proximityMicros := by
    rcases chosen with same | ⟨node, member, isFresh, same⟩
    · -- the proximity that the loop starts from is above every known one
      have above := least (identity, record) ((mem_order_iff walked).mpr fresh.1) fresh.2
      rw [same] at above
      exact absurd (eq_unknown_of_le above) (known identity record fresh)
    · refine ⟨node.2, ⟨?_, isFresh⟩, by rw [same], ?_⟩
      · rw [same]
        exact (mem_order_iff walked).mp member
      · intro identity other fresh
        have bound := least (identity, other) ((mem_order_iff walked).mpr fresh.1) fresh.2
        rwa [same] at bound
  refine ⟨result.1, answered, fun ⟨identity, record, fresh⟩ => nearest identity record fresh, ?_⟩
  constructor
  · intro same identity record fresh
    obtain ⟨record, isFresh, client, _⟩ := nearest identity record fresh
    -- the client of a node is never that of the base chain
    have target := nodes _ record isFresh.1
    have chains : table.baseChain.1.client.target = .chain := chain _ (List.get_mem ..)
    rw [← client, same, chains] at target
    cases target
  · intro none
    rcases chosen with same | ⟨node, member, isFresh, _⟩
    · rw [same]
    · exact absurd ⟨(mem_order_iff walked).mp member, isFresh⟩ (none node.1 node.2)

end RoutingTable

/-- What happens to the table once the updater runs: its own iterations, and requests that
take a turn of the base chain. -/
inductive RoutingEvent where
  | updater (event : UpdaterEvent)
  | consult

/-- A ping that ends took no longer than the average can bear. -/
def RoutingEvent.Brief : RoutingEvent → Prop
  | .updater (.ping _ result) => result.Brief
  | _ => True

namespace Measured

def routed (lib : UpdaterLibrary) (s : Measured) : RoutingEvent → Option Measured
  | .updater event => s.step lib event
  | .consult =>
    some { s with updater := { s.updater with table := s.updater.table.baseChain.2 } }

/-- The durations credited to a record since its proximity was last unknown. -/
def credited (s : Measured) (identity : Pubkey) (record : UpstreamRecord) : List Nat :=
  record.unmeasured.credits ((s.applied identity).map (·.2))

/-- What holds of the table in every state of a run with brief pings. -/
structure Surveyed (static : Option Pubkey) (s : Measured) : Prop where
  replayed : Replayed s
  brief : ∀ identity, ∀ entry ∈ s.applied identity, entry.2.Brief
  nodes : ∀ identity record, s.record identity = some record → record.client.target = .er
  chain : ∀ upstream ∈ s.updater.table.baseChainUpstreams.upstreams,
    upstream.client.target = .chain
  identity : s.updater.table.staticErIdentity = static

variable {lib : UpdaterLibrary} {static : Option Pubkey} {s t : Measured}

theorem Surveyed.averages (surveyed : Surveyed static s) {identity : Pubkey}
    {record : UpstreamRecord} (found : s.record identity = some record) :
    record.Averages (s.credited identity record) := by
  have brief : ∀ result ∈ (s.applied identity).map (·.2), result.Brief := by
    intro result member
    obtain ⟨entry, listed, rfl⟩ := List.mem_map.mp member
    exact surveyed.brief identity entry listed
  have folded := (UpstreamRecord.Averages.fresh record.client record.wsUrl record.info).foldl _ brief
  rw [UpstreamRecord.foldl_credit_fst] at folded
  have replayed : ((s.applied identity).map (·.2)).foldl UpstreamRecord.settle
      (UpstreamRecord.fresh record.client record.wsUrl record.info) = record := by
    rw [List.foldl_map]
    exact (surveyed.replayed.replayed identity record found).symm
  rw [replayed] at folded
  exact folded

theorem applied_brief {event : UpdaterEvent} (brief : (RoutingEvent.updater event).Brief)
    (earlier : ∀ identity, ∀ entry ∈ s.applied identity, entry.2.Brief)
    (fired : step lib s event = some t) :
    ∀ identity, ∀ entry ∈ t.applied identity, entry.2.Brief := by
  intro identity entry member
  rw [step_applied fired] at member
  split at member
  · cases member
  · rcases List.mem_append.mp member with old | new
    · exact earlier identity entry old
    · obtain ⟨ended, _⟩ := List.mem_filter.mp new
      cases event with
      | message | tick => cases ended
      | ping index result =>
        simp only [settles, Option.mem_toList, Option.bind_eq_some_iff] at ended
        obtain ⟨ping, _, ended⟩ := ended
        split at ended
        · cases ended
          exact brief
        · cases ended

theorem registered_target {event : UpdaterEvent} {identity : Pubkey} {upstream : UpstreamRecord}
    (entered : s.registered lib event = some (identity, upstream)) :
    upstream.client.target = .er := by
  unfold registered at entered
  split at entered
  · obtain ⟨_, _, registers⟩ := Option.bind_eq_some_iff.mp entered
    exact RoutingTable.registers_target registers
  · cases entered

theorem nodes_step {event : UpdaterEvent}
    (nodes : ∀ identity record, s.record identity = some record → record.client.target = .er)
    (fired : step lib s event = some t) :
    ∀ identity record, t.record identity = some record → record.client.target = .er := by
  intro identity record found
  cases change_of_step fired with
  | quiet _ _ _ records => exact nodes identity record (records identity record found)
  | registration entrant upstream _ entered _ _ _ records =>
    rw [records] at found
    split at found
    · cases found
      exact registered_target entered
    · exact nodes identity record found
  | measurement ping result old _ _ _ present _ records =>
    rw [records] at found
    split at found
    · cases found
      rw [UpstreamRecord.settle_client]
      exact nodes ping.pubkey old present
    · exact nodes identity record found

theorem Surveyed.step {event : RoutingEvent} (surveyed : Surveyed static s) (brief : event.Brief)
    (fired : routed lib s event = some t) : Surveyed static t := by
  cases event with
  | updater event =>
    have fired : Measured.step lib s event = some t := fired
    have same : s.updater.table.SameChain t.updater.table := by
      obtain ⟨next, handled, rfl⟩ := Option.map_eq_some_iff.mp fired
      exact Updater.handle_sameChain handled
    exact {
      replayed := surveyed.replayed.step fired
      brief := applied_brief brief surveyed.brief fired
      nodes := nodes_step surveyed.nodes fired
      chain := same.1 ▸ surveyed.chain
      identity := same.2.trans surveyed.identity }
  | consult =>
    cases fired
    exact {
      replayed := ⟨surveyed.replayed.forgotten, surveyed.replayed.replayed⟩
      brief := surveyed.brief
      nodes := surveyed.nodes
      chain := surveyed.chain
      identity := surveyed.identity }

theorem Surveyed.start {urls : List (Url × Bool)} {upstreams : BaseChainUpstreams}
    (built : BaseChainUpstreams.new lib.toUrlLibrary urls = some upstreams) (staleAfter : Nat)
    (static : Option Pubkey) (accounts : List RegistryNotification) (requestId : RequestId)
    (subscriberId : SubscriberId) (tx : Channel) :
    Surveyed static
      (start lib upstreams staleAfter static accounts requestId subscriberId tx) := by
  obtain ⟨same, identity⟩ := RoutingTable.follow_sameChain lib.toRegistryLibrary
    (RoutingTable.initial upstreams staleAfter static) accounts
  exact {
    replayed := (Sound.start ..).replayed
    brief := by
      intro _ _ member
      cases member
    nodes := follow_records (P := fun record => record.client.target = .er) lib.toRegistryLibrary
      (fun _ _ _ _ _ entered => RoutingTable.registers_target entered)
      (RoutingTable.initial upstreams staleAfter static) (by intro _ _ found; cases found) accounts
    chain := by
      intro upstream member
      exact BaseChainUpstreams.new_target built upstream (same ▸ member)
    identity }

/-- In a run whose pings are brief, the average never overflows, a known proximity lies
between the shortest and the longest ping credited to its record since it was unknown,
a fresh proximity is known, and the node selected is the closest of the fresh ones,
whatever the order the table is walked in, or else the base chain. -/
theorem closest_node_selected {urls : List (Url × Bool)} {upstreams : BaseChainUpstreams}
    (built : BaseChainUpstreams.new lib.toUrlLibrary urls = some upstreams) (staleAfter : Nat)
    (static : Option Pubkey) (accounts : List RegistryNotification) (requestId : RequestId)
    (subscriberId : SubscriberId) (tx : Channel) (events : List RoutingEvent)
    (brief : ∀ event ∈ events, event.Brief)
    (run : Run (Fires (routed lib))
      (start lib upstreams staleAfter static accounts requestId subscriberId tx) events t) :
    (∀ identity record, t.record identity = some record →
      (record.proximityMicros ≠ unknownProximity → ∀ duration ≤ LONGEST_PING,
        record.proximityMicros.toNat * 85 + duration * 15 < UInt64.size) ∧
      (record.proximityMicros ≠ unknownProximity → ∃ shortest longest,
        (t.credited identity record).min? = some shortest ∧
        (t.credited identity record).max? = some longest ∧
        shortest ≤ record.proximityMicros.toNat ∧ record.proximityMicros.toNat ≤ longest) ∧
      ∀ now, record.hasFreshProximity now t.updater.table.proximityStaleAfter = true →
        record.proximityMicros ≠ unknownProximity) ∧
    (static = none → ∀ now order,
      order.Perm (t.updater.table.inner.entries.map fun entry => (entry.1, entry.2)) →
      ∃ node table, t.updater.table.closestNode now order = .ok (node, table) ∧
        t.updater.table.Selects now node) := by
  have surveyed : Surveyed static t := run.invariant_of_allowed
    (Surveyed.start built staleAfter static accounts requestId subscriberId tx)
    (fun _ _ _ brief surveyed fired => surveyed.step brief fired) brief
  constructor
  · intro identity record found
    have averages := surveyed.averages found
    refine ⟨?_, averages.within, fun _ fresh => averages.known_of_fresh fresh⟩
    intro known duration short
    exact UpstreamRecord.average_lt (averages.proximity_le known) short
  · intro dynamic now order walked
    obtain ⟨node, answered, selects⟩ := RoutingTable.closestNode_selects
      (surveyed.identity.trans dynamic) walked
      (fun _ _ fresh => (surveyed.averages fresh.1).known_of_fresh fresh.2)
      surveyed.nodes surveyed.chain
    exact ⟨node, _, answered, selects⟩

/-- A base chain of one upstream. -/
def pingedChain : BaseChainUpstreams :=
  { upstreams := [RoutingTable.sampleChain], next := 0, next_lt := Nat.zero_lt_one }

/-- A node that answers a ping in 250 microseconds, while a request takes a turn. -/
def pinged : List RoutingEvent := [.updater .tick, .updater (.ping 0 (.ok 250 1)), .consult]

/-- The node just pinged is selected. -/
theorem pinged_node_selected : ∃ t node table,
    BaseChainUpstreams.new movingLibrary.toUrlLibrary
      [({ scheme := "https", rest := "//chain/" }, true)] = some pingedChain ∧
    Run (Fires (routed movingLibrary))
      (start movingLibrary pingedChain 5 none [RoutingTable.relocationNotice [1]] ⟨1⟩ ⟨1⟩ ⟨1⟩)
      pinged t ∧
    t.updater.table.closestNode 2 (t.updater.table.inner.entries.map fun entry =>
      (entry.1, entry.2)) = .ok (node, table) ∧
    t.updater.table.Selects 2 node ∧ node ≠ (Pubkey.default, t.updater.table.baseChain.1.client) := by
  obtain ⟨t, run, fresh⟩ := exists_run_of_exec
    (show (exec (routed movingLibrary) (start movingLibrary pingedChain 5 none
        [RoutingTable.relocationNotice [1]] ⟨1⟩ ⟨1⟩ ⟨1⟩) pinged).map (fun t =>
      (t.record (.repeating 7)).any fun record =>
        record.hasFreshProximity 2 t.updater.table.proximityStaleAfter) = some true by decide +kernel)
  have built : BaseChainUpstreams.new movingLibrary.toUrlLibrary
      [({ scheme := "https", rest := "//chain/" }, true)] = some pingedChain := rfl
  have brief : ∀ event ∈ pinged, event.Brief := by
    simp [pinged, RoutingEvent.Brief, PingResult.Brief, PingResult.duration, LONGEST_PING,
      UInt64.size]
  obtain ⟨node, table, answered, selects⟩ :=
    (closest_node_selected built 5 none _ _ _ _ pinged brief run).2 rfl 2 _ (.refl _)
  refine ⟨t, node, table, built, run, answered, selects, ?_⟩
  obtain ⟨record, found, fresh⟩ := (Option.any_eq_true _ _).mp fresh
  intro chain
  exact selects.chain_iff.mp chain (.repeating 7) record ⟨found, fresh⟩

end Measured

end MagicRouter
