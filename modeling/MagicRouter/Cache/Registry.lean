import MagicRouter.Cache.Routes

/-! The routing table against the registry it follows. The registry is read off
the notifications themselves, as a sequence of writes keyed by PDA; the table
keeps the first of these writes where the registry keeps the last. -/

namespace MagicRouter

open Library

/-- One item of the initial account listing or one program notification, with
the outcome of the reachability probe made while it is handled. -/
structure RegistryNotification where
  pubkey : Pubkey
  account : Account
  probe : Bool

namespace RegistryNotification

/-- What a genuine notification says about the registry. -/
def write (lib : RegistryLibrary) (notification : RegistryNotification) : Write Pubkey ErRecord :=
  match lib.deserialize notification.account.data with
  | some record => .put notification.pubkey record
  | none => .remove notification.pubkey

/-- Either an existing account holding a decodable record of a reachable node,
or the closed account. -/
def Genuine (lib : RegistryLibrary) (notification : RegistryNotification) : Prop :=
  (∃ record upstream, notification.account.lamports ≠ 0 ∧
    lib.deserialize notification.account.data = some record ∧
    UpstreamRecord.newFromErRecord lib.toUrlLibrary notification.probe record = some upstream) ∨
  notification.account = { lamports := 0, data := [] }

end RegistryNotification

/-- The registry writes of a notification sequence. -/
def registryWrites (lib : RegistryLibrary) (notifications : List RegistryNotification) :
    List (Write Pubkey ErRecord) :=
  notifications.map (·.write lib)

/-- PDAs and identities determine each other among the records written. -/
def OneToOne (writes : List (Write Pubkey ErRecord)) : Prop :=
  ∀ pda record pda' record', .put pda record ∈ writes → .put pda' record' ∈ writes →
    (pda = pda' ↔ record.identity = record'.identity)

theorem OneToOne.subset {writes more : List (Write Pubkey ErRecord)} (paired : OneToOne more)
    (included : writes ⊆ more) : OneToOne writes :=
  fun pda record pda' record' first second =>
    paired pda record pda' record' (included first) (included second)

/-- The part of an upstream record that a registry record determines. -/
def UpstreamRecord.endpoint (upstream : UpstreamRecord) : RpcClient × Url × Option RouteInfo :=
  (upstream.client, upstream.wsUrl, upstream.info)

/-- The endpoint a registry record describes, the node being reachable. -/
def ErRecord.endpoint (lib : UrlLibrary) (record : ErRecord) :
    Option (RpcClient × Url × Option RouteInfo) :=
  (UpstreamRecord.newFromErRecord lib true record).map (·.endpoint)

namespace UpstreamRecord

/-- A record is built only of a node that answers, and without a proximity. -/
theorem newFromErRecord_fresh {lib : UrlLibrary} {record : ErRecord} {upstream : UpstreamRecord}
    (built : newFromErRecord lib probe record = some upstream) :
    probe = true ∧ ∃ client wsUrl,
      upstream = fresh client wsUrl (some (RouteInfo.ofRecord record)) := by
  simp only [newFromErRecord, Option.bind_eq_bind, Option.bind_eq_some_iff] at built
  obtain ⟨fqdn, _, made⟩ := built
  cases probe with
  | false => simp [newFromUrl] at made
  | true =>
    simp only [newFromUrl, if_true, Option.map_eq_some_iff] at made
    obtain ⟨wsUrl, _, rfl⟩ := made
    exact ⟨rfl, _, wsUrl, rfl⟩

theorem newFromErRecord_info {lib : UrlLibrary} {record : ErRecord} {upstream : UpstreamRecord}
    (built : newFromErRecord lib probe record = some upstream) :
    upstream.info = some (RouteInfo.ofRecord record) := by
  obtain ⟨_, _, _, rfl⟩ := newFromErRecord_fresh built
  rfl

theorem newFromErRecord_endpoint {lib : UrlLibrary} {record : ErRecord} {upstream : UpstreamRecord}
    (built : newFromErRecord lib probe record = some upstream) :
    record.endpoint lib = some upstream.endpoint := by
  obtain ⟨rfl, _⟩ := newFromErRecord_fresh built
  simp [ErRecord.endpoint, built]

end UpstreamRecord

/-- The endpoint depends on the record through its route information alone. -/
theorem ErRecord.endpoint_congr {lib : UrlLibrary} {record record' : ErRecord}
    (same : RouteInfo.ofRecord record = RouteInfo.ofRecord record') :
    record.endpoint lib = record'.endpoint lib := by
  have address : record.addr = record'.addr := congrArg RouteInfo.fqdn same
  simp [ErRecord.endpoint, UpstreamRecord.newFromErRecord, address, same]

theorem ErRecord.endpoint_info {lib : UrlLibrary} {record : ErRecord}
    {described : RpcClient × Url × Option RouteInfo}
    (found : record.endpoint lib = some described) :
    described.2.2 = some (RouteInfo.ofRecord record) := by
  obtain ⟨upstream, built, rfl⟩ := Option.map_eq_some_iff.mp found
  exact UpstreamRecord.newFromErRecord_info built

namespace RoutingTable

/-- The table after a sequence of notifications, handled in order. -/
def follow (lib : RegistryLibrary) (table : RoutingTable)
    (notifications : List RegistryNotification) : RoutingTable :=
  notifications.foldl (fun table notification =>
    (table.insertEntry lib notification.pubkey notification.account notification.probe).1) table

/-- The table before any notification. -/
def initial (upstreams : BaseChainUpstreams) (staleAfter : Nat) (identity : Option Pubkey) :
    RoutingTable where
  inner := ∅
  pdaToIdentity := ∅
  baseChainUpstreams := upstreams
  proximityStaleAfter := staleAfter
  staticErIdentity := identity

theorem carryProximity_endpoint (table : RoutingTable) (identity : Pubkey)
    (upstream : UpstreamRecord) :
    (table.carryProximity identity upstream).endpoint = upstream.endpoint := by
  unfold carryProximity
  split
  · rfl
  · split <;> rfl

/-- The table holds exactly the given records, one per PDA. -/
structure Holds (lib : RegistryLibrary) (table : RoutingTable)
    (records : Pubkey → Option ErRecord) : Prop where
  pdas : ∀ pda, table.pdaToIdentity.lookup pda = (records pda).map (·.identity)
  present : ∀ pda record, records pda = some record → ∃ upstream,
    table.inner.lookup record.identity = some upstream ∧
      record.endpoint lib.toUrlLibrary = some upstream.endpoint
  absent : ∀ identity upstream, table.inner.lookup identity = some upstream →
    ∃ pda record, records pda = some record ∧ record.identity = identity

/-- Requests are answered from the given registry contents. -/
structure Answers (lib : RegistryLibrary) (table : RoutingTable)
    (registry : Pubkey → Option ErRecord) : Prop where
  /-- Each registered identity maps to its record's client, URL and route. -/
  entry : ∀ pda record, registry pda = some record → ∃ upstream,
    table.inner.lookup record.identity = some upstream ∧
      record.endpoint lib.toUrlLibrary = some upstream.endpoint
  /-- No other identity is in the table. -/
  closed : ∀ identity, (∀ pda record, registry pda = some record → record.identity ≠ identity) →
    table.inner.lookup identity = none
  client : ∀ pda record, registry pda = some record →
    table.ephemeralClient record.identity = (record.endpoint lib.toUrlLibrary).map (·.1)
  handle : ∀ pda record, registry pda = some record →
    table.ephemeralHandle record.identity =
      (record.endpoint lib.toUrlLibrary).map fun endpoint => { rpc := endpoint.1, ws := endpoint.2.1 }
  routes : ∀ info, info ∈ table.allRoutes ↔
    ∃ pda record, registry pda = some record ∧ RouteInfo.ofRecord record = info

variable {lib : RegistryLibrary} {table : RoutingTable}

theorem mem_allRoutes {info : RouteInfo} :
    info ∈ table.allRoutes ↔
      ∃ identity upstream, table.inner.lookup identity = some upstream ∧ upstream.info = some info := by
  simp only [allRoutes, List.mem_filterMap]
  constructor
  · rintro ⟨⟨identity, upstream⟩, member, found⟩
    exact ⟨identity, upstream, Store.mem_entries_iff.mp member, found⟩
  · rintro ⟨identity, upstream, found, info⟩
    exact ⟨⟨identity, upstream⟩, Store.mem_entries_iff.mpr found, info⟩

/-- The two facts about `inner` decide every answer. -/
theorem Answers.of_inner {registry : Pubkey → Option ErRecord}
    (entry : ∀ pda record, registry pda = some record → ∃ upstream,
      table.inner.lookup record.identity = some upstream ∧
        record.endpoint lib.toUrlLibrary = some upstream.endpoint)
    (known : ∀ identity upstream, table.inner.lookup identity = some upstream →
      ∃ pda record, registry pda = some record ∧ record.identity = identity) :
    Answers lib table registry where
  entry := entry
  closed := by
    intro identity none
    cases found : table.inner.lookup identity with
    | none => rfl
    | some upstream =>
      obtain ⟨pda, record, registered, same⟩ := known identity upstream found
      exact absurd same (none pda record registered)
  client := by
    intro pda record registered
    obtain ⟨upstream, found, endpoint⟩ := entry pda record registered
    simp [ephemeralClient, found, endpoint, UpstreamRecord.endpoint]
  handle := by
    intro pda record registered
    obtain ⟨upstream, found, endpoint⟩ := entry pda record registered
    simp [ephemeralHandle, found, endpoint, UpstreamRecord.endpoint]
  routes := by
    intro info
    rw [mem_allRoutes]
    constructor
    · rintro ⟨identity, upstream, found, shown⟩
      obtain ⟨pda, record, registered, rfl⟩ := known identity upstream found
      obtain ⟨upstream', found', endpoint⟩ := entry pda record registered
      cases found.symm.trans found'
      have described := ErRecord.endpoint_info endpoint
      exact ⟨pda, record, registered, Option.some.inj (described.symm.trans shown)⟩
    · rintro ⟨pda, record, registered, rfl⟩
      obtain ⟨upstream, found, endpoint⟩ := entry pda record registered
      exact ⟨record.identity, upstream, found, ErRecord.endpoint_info endpoint⟩

/-- A genuine record is inserted under its PDA and identity unless they are taken. -/
theorem insertEntry_record {notification : RegistryNotification} {record : ErRecord}
    {upstream : UpstreamRecord}
    (decoded : lib.deserialize notification.account.data = some record)
    (built : UpstreamRecord.newFromErRecord lib.toUrlLibrary notification.probe record =
      some upstream) :
    ∃ fresh : UpstreamRecord, record.endpoint lib.toUrlLibrary = some fresh.endpoint ∧
      (table.insertEntry lib notification.pubkey notification.account notification.probe).1 =
        { table with
          pdaToIdentity := table.pdaToIdentity.insertNew notification.pubkey record.identity
          inner := table.inner.insertNew record.identity fresh } := by
  refine ⟨table.carryProximity record.identity upstream, ?_, ?_⟩
  · rw [carryProximity_endpoint]
    exact UpstreamRecord.newFromErRecord_endpoint built
  · simp [insertEntry, decoded, built]

variable {records : Pubkey → Option ErRecord}

/-- An identity is free as long as its PDA is not registered. -/
private theorem Holds.vacant_of_unregistered (holds : Holds lib table records) {pda : Pubkey}
    {record : ErRecord}
    (paired : ∀ pda' record', records pda' = some record' →
      (pda' = pda ↔ record'.identity = record.identity))
    (unregistered : records pda = none) : table.inner.lookup record.identity = none := by
  cases stored : table.inner.lookup record.identity with
  | none => rfl
  | some upstream =>
    obtain ⟨pda', record', registered, identity⟩ := holds.absent _ _ stored
    have taken := (paired pda' record' registered).mpr identity
    simp [← taken, registered] at unregistered

/-- A first record for a PDA is inserted; a later one changes nothing the table
answers with, because both of its insertions are refused. -/
theorem Holds.put (holds : Holds lib table records) {pda : Pubkey} {record : ErRecord}
    {fresh : UpstreamRecord} (endpoint : record.endpoint lib.toUrlLibrary = some fresh.endpoint)
    (paired : ∀ pda' record', records pda' = some record' →
      (pda' = pda ↔ record'.identity = record.identity)) :
    Holds lib
      { table with
        pdaToIdentity := table.pdaToIdentity.insertNew pda record.identity
        inner := table.inner.insertNew record.identity fresh }
      (fun key => Write.keepFirst key (records key) (.put pda record)) where
  pdas := by
    intro key
    simp only [Store.lookup_insertNew, holds.pdas, Write.keepFirst]
    by_cases same : pda = key
    · subst key
      cases records pda <;> simp
    · simp [same, Ne.symm same]
  present := by
    intro key held found
    simp only [Store.lookup_insertNew]
    by_cases same : pda = key
    · subst key
      cases old : records pda with
      | some previous =>
        simp only [Write.keepFirst, if_true, old, Option.some_or, Option.some.injEq] at found
        subst held
        obtain ⟨upstream, stored, described⟩ := holds.present pda previous old
        refine ⟨upstream, ?_, described⟩
        have identity := (paired pda previous old).mp rfl
        rw [identity] at stored ⊢
        simp [stored]
      | none =>
        simp only [Write.keepFirst, if_true, old, Option.none_or, Option.some.injEq] at found
        subst held
        have vacant := holds.vacant_of_unregistered paired old
        exact ⟨fresh, by simp [vacant], endpoint⟩
    · simp only [Write.keepFirst, same, if_false] at found
      obtain ⟨upstream, stored, described⟩ := holds.present key held found
      refine ⟨upstream, ?_, described⟩
      have other : held.identity ≠ record.identity :=
        fun identity => same ((paired key held found).mpr identity).symm
      simp [other, stored]
  absent := by
    intro identity upstream stored
    rw [Store.lookup_insertNew] at stored
    by_cases same : identity = record.identity
    · subst identity
      cases old : records pda with
      | some previous =>
        exact ⟨pda, previous, by simp [Write.keepFirst, old], (paired pda previous old).mp rfl⟩
      | none => exact ⟨pda, record, by simp [Write.keepFirst, old], rfl⟩
    · rw [if_neg same] at stored
      obtain ⟨key, held, registered, rfl⟩ := holds.absent identity upstream stored
      have other : pda ≠ key := fun taken => same ((paired key held registered).mp taken.symm)
      exact ⟨key, held, by simp [Write.keepFirst, other, registered], rfl⟩

/-- The closed account removes its PDA and, with it, its identity. -/
theorem Holds.remove (holds : Holds lib table records) {pda : Pubkey}
    (paired : ∀ pda' record pda'' record', records pda' = some record → records pda'' = some record' →
      (pda' = pda'' ↔ record.identity = record'.identity)) :
    Holds lib (table.removeEntry pda).1
      (fun key => Write.keepFirst key (records key) (.remove pda)) := by
  cases old : records pda with
  | none =>
    have unknown : table.pdaToIdentity.lookup pda = none := by simp [holds.pdas, old]
    have unchanged : (fun key => Write.keepFirst key (records key) (.remove pda)) = records := by
      funext key
      by_cases same : pda = key
      · simp [Write.keepFirst, ← same, old]
      · simp [Write.keepFirst, same]
    simpa [removeEntry, unknown, unchanged] using holds
  | some record =>
    have known : table.pdaToIdentity.lookup pda = some record.identity := by simp [holds.pdas, old]
    obtain ⟨upstream, stored, _⟩ := holds.present pda record old
    simp only [removeEntry, known, stored]
    refine ⟨?_, ?_, ?_⟩
    · intro key
      simp only [Store.lookup_erase_if, holds.pdas, Write.keepFirst]
      by_cases same : pda = key
      · simp [same]
      · simp [same, Ne.symm same]
    · intro key held found
      by_cases same : pda = key
      · simp [Write.keepFirst, same] at found
      · simp only [Write.keepFirst, same, if_false] at found
        obtain ⟨other, kept, described⟩ := holds.present key held found
        have different : held.identity ≠ record.identity := fun identity =>
          same ((paired key held pda record found old).mpr identity).symm
        exact ⟨other, by simp [different, kept], described⟩
    · intro identity other kept
      rw [Store.lookup_erase_if] at kept
      by_cases same : identity = record.identity
      · simp [same] at kept
      · rw [if_neg same] at kept
        obtain ⟨key, held, registered, rfl⟩ := holds.absent identity other kept
        have different : pda ≠ key := by
          rintro rfl
          cases old.symm.trans registered
          exact same rfl
        exact ⟨key, held, by simp [Write.keepFirst, different, registered], rfl⟩

variable {upstreams : BaseChainUpstreams} {staleAfter : Nat} {static : Option Pubkey}

theorem Holds.initial : Holds lib (initial upstreams staleAfter static) (fun _ => none) where
  pdas := by simp [RoutingTable.initial]
  present := by simp
  absent := by simp [RoutingTable.initial]

/-- After any genuine notification sequence the table holds, for each PDA, the
first record received since the PDA was last closed. -/
theorem follow_holds_first (empty : lib.deserialize [] = none)
    (notifications : List RegistryNotification)
    (genuine : ∀ notification ∈ notifications, notification.Genuine lib)
    (paired : OneToOne (registryWrites lib notifications)) :
    Holds lib (follow lib (RoutingTable.initial upstreams staleAfter static) notifications)
      (fun pda => Write.first pda (registryWrites lib notifications)) := by
  induction notifications using List.reverseRecOn with
  | nil => exact Holds.initial
  | append_singleton earlier notification ih =>
    have writes : registryWrites lib (earlier ++ [notification]) =
        registryWrites lib earlier ++ [notification.write lib] := by simp [registryWrites]
    rw [writes] at paired
    have holds := ih (fun item member => genuine item (by simp [member]))
      (paired.subset (List.subset_append_left _ _))
    rw [follow, List.foldl_append, List.foldl_cons, List.foldl_nil]
    simp only [writes, Write.first_snoc]
    rcases genuine notification (by simp) with ⟨record, upstream, _, decoded, built⟩ | closed
    · have write : notification.write lib = .put notification.pubkey record := by
        simp [RegistryNotification.write, decoded]
      obtain ⟨fresh, endpoint, inserted⟩ := insertEntry_record decoded built
      rw [write, inserted]
      apply holds.put endpoint
      intro pda' record' held
      refine paired pda' record' notification.pubkey record ?_ ?_
      · exact List.mem_append_left _ (Write.mem_of_first held)
      · simp [write]
    · have write : notification.write lib = .remove notification.pubkey := by
        simp [RegistryNotification.write, closed, empty]
      have removed (table : RoutingTable) : (table.insertEntry lib notification.pubkey
          notification.account notification.probe).1 = (table.removeEntry notification.pubkey).1 := by
        simp [insertEntry, closed, empty]
      rw [write, removed]
      apply holds.remove
      intro pda record pda' record' held held'
      exact paired pda record pda' record'
        (List.mem_append_left _ (Write.mem_of_first held))
        (List.mem_append_left _ (Write.mem_of_first held'))

/-- The table answers from the latest registry contents exactly when, for every
PDA, no record received since its registration changed the route for good: the
first and the last of them agree on address, base fee, block time and country. -/
theorem follow_answers_latest_iff (empty : lib.deserialize [] = none)
    (notifications : List RegistryNotification)
    (genuine : ∀ notification ∈ notifications, notification.Genuine lib)
    (paired : OneToOne (registryWrites lib notifications)) :
    Answers lib (follow lib (RoutingTable.initial upstreams staleAfter static) notifications)
        (fun pda => Write.last pda (registryWrites lib notifications)) ↔
      ∀ pda, (Write.first pda (registryWrites lib notifications)).map RouteInfo.ofRecord =
        (Write.last pda (registryWrites lib notifications)).map RouteInfo.ofRecord := by
  have holds : Holds lib (follow lib (RoutingTable.initial upstreams staleAfter static) notifications)
      (fun pda => Write.first pda (registryWrites lib notifications)) :=
    follow_holds_first empty notifications genuine paired
  generalize follow lib (RoutingTable.initial upstreams staleAfter static) notifications = table at *
  generalize registryWrites lib notifications = writes at *
  have same_pda {pda first last} (oldest : Write.first pda writes = some first)
      (newest : Write.last pda writes = some last) : first.identity = last.identity :=
    (paired pda first pda last (Write.mem_of_first oldest) (Write.mem_of_last newest)).mp rfl
  constructor
  · intro answers pda
    have both := Write.first_isSome_iff_last_isSome pda writes
    cases newest : Write.last pda writes with
    | none =>
      have none : Write.first pda writes = none := by simpa [newest] using both
      simp [none]
    | some last =>
      obtain ⟨first, oldest⟩ := Option.isSome_iff_exists.mp (both.mpr (by simp [newest]))
      obtain ⟨upstream, stored, described⟩ := holds.present pda first oldest
      obtain ⟨upstream', stored', described'⟩ := answers.entry pda last newest
      rw [← same_pda oldest newest, stored] at stored'
      cases stored'
      have info := (ErRecord.endpoint_info described).symm.trans (ErRecord.endpoint_info described')
      simpa [oldest] using info
  · intro agree
    apply Answers.of_inner
    · intro pda last newest
      have both := Write.first_isSome_iff_last_isSome pda writes
      obtain ⟨first, oldest⟩ := Option.isSome_iff_exists.mp (both.mpr (by simp [newest]))
      obtain ⟨upstream, stored, described⟩ := holds.present pda first oldest
      have info : RouteInfo.ofRecord first = RouteInfo.ofRecord last := by
        simpa [oldest, newest] using agree pda
      refine ⟨upstream, by rwa [← same_pda oldest newest], ?_⟩
      rwa [← ErRecord.endpoint_congr info]
    · intro identity upstream stored
      obtain ⟨pda, first, oldest, rfl⟩ := holds.absent identity upstream stored
      have both := Write.first_isSome_iff_last_isSome pda writes
      obtain ⟨last, newest⟩ := Option.isSome_iff_exists.mp (both.mp (by simp [oldest]))
      exact ⟨pda, last, newest, (same_pda oldest newest).symm⟩

/-- A validator that registers at one address and moves to another. -/
def relocatingNode (addr : String) : ErRecord where
  identity := Pubkey.repeating 7
  status := .active
  blockTimeMs := 50
  baseFee := 0
  countryCode := "US"
  addr := addr

/-- Account bytes `[1]` and `[2]` stand for the two records of `relocatingNode`. -/
def relocationLibrary : RegistryLibrary where
  parse text :=
    if text = "https://one.er" then some { scheme := "https", rest := "//one.er" }
    else if text = "https://two.er" then some { scheme := "https", rest := "//two.er" }
    else none
  setScheme url scheme := some { url with scheme }
  deserialize data :=
    if data = [1] then some (relocatingNode "https://one.er")
    else if data = [2] then some (relocatingNode "https://two.er")
    else none

def relocationNotice (data : List UInt8) : RegistryNotification where
  pubkey := Pubkey.repeating 1
  account := { lamports := if data = [] then 0 else 1, data }
  probe := true

def relocationUpstreams : BaseChainUpstreams where
  upstreams := [{
    client := { url := "https://chain", target := .chain }
    wsUrl := { scheme := "wss", rest := "//chain" }
    proximityMicros := unknownProximity
    lastProximityUpdate := none
    consecutivePingFailures := 0
    info := none }]
  next := 0
  next_lt := by decide

theorem relocation_genuine (datas : List (List UInt8))
    (known : ∀ data ∈ datas, data = [1] ∨ data = [2] ∨ data = []) :
    ∀ notification ∈ datas.map relocationNotice, notification.Genuine relocationLibrary := by
  intro notification member
  obtain ⟨data, listed, rfl⟩ := List.mem_map.mp member
  rcases known data listed with rfl | rfl | rfl
  · exact .inl ⟨relocatingNode "https://one.er", _, by decide, rfl, rfl⟩
  · exact .inl ⟨relocatingNode "https://two.er", _, by decide, rfl, rfl⟩
  · exact .inr rfl

theorem relocation_paired (datas : List (List UInt8))
    (known : ∀ data ∈ datas, data = [1] ∨ data = [2] ∨ data = []) :
    OneToOne (registryWrites relocationLibrary (datas.map relocationNotice)) := by
  have only {pda : Pubkey} {record : ErRecord} (written : .put pda record ∈
      registryWrites relocationLibrary (datas.map relocationNotice)) :
      pda = Pubkey.repeating 1 ∧ record.identity = Pubkey.repeating 7 := by
    simp only [registryWrites, List.map_map, List.mem_map, Function.comp_apply] at written
    obtain ⟨data, member, write⟩ := written
    rcases known data member with rfl | rfl | rfl <;> cases write <;> exact ⟨rfl, rfl⟩
  intro pda record pda' record' first second
  simp [only first, only second]

/-- The record that moves the node to its new address is dropped: requests keep
going to the address it was first registered with. -/
theorem follow_misses_relocation :
    (∀ notification ∈ [relocationNotice [1], relocationNotice [2]],
        notification.Genuine relocationLibrary) ∧
      OneToOne (registryWrites relocationLibrary [relocationNotice [1], relocationNotice [2]]) ∧
      ¬ Answers relocationLibrary
        (follow relocationLibrary (RoutingTable.initial relocationUpstreams 0 none)
          [relocationNotice [1], relocationNotice [2]])
        (fun pda => Write.last pda
          (registryWrites relocationLibrary [relocationNotice [1], relocationNotice [2]])) := by
  refine ⟨relocation_genuine [[1], [2]] (by decide), relocation_paired [[1], [2]] (by decide), ?_⟩
  · intro answers
    have served := answers.client (Pubkey.repeating 1) (relocatingNode "https://two.er") rfl
    revert served
    decide

/-- After the PDA is closed and registered again, the new address is served. -/
theorem follow_answers_renewal :
    Answers relocationLibrary
      (follow relocationLibrary (RoutingTable.initial relocationUpstreams 0 none)
        [relocationNotice [1], relocationNotice [], relocationNotice [2]])
      (fun pda => Write.last pda (registryWrites relocationLibrary
        [relocationNotice [1], relocationNotice [], relocationNotice [2]])) := by
  refine (follow_answers_latest_iff rfl _ ?_ ?_).mpr ?_
  · exact relocation_genuine [[1], [], [2]] (by decide)
  · exact relocation_paired [[1], [], [2]] (by decide)
  · intro pda
    by_cases same : Pubkey.repeating 1 = pda
    · subst pda
      rfl
    · simp [registryWrites, RegistryNotification.write, relocationNotice, relocationLibrary,
        Write.first, Write.last, Write.keepFirst, Write.keepLast, same]

end RoutingTable

end MagicRouter
