import MagicRouter.Cache.Registry

/-! The websocket upstreams the routing table announces against the active nodes of
the registry. A record announces its own URL; a removal announces the URL the table
holds, which is the one of the first record. -/

namespace MagicRouter

open Library

/-- The websocket URL a registry record describes. -/
def ErRecord.wsUrl (lib : UrlLibrary) (record : ErRecord) : Option Url :=
  (record.endpoint lib).map (·.2.1)

def WsUpstreamState.write (state : WsUpstreamState) : Write Url Bool :=
  .put state.url state.isOnline

/-- The last message about the URL says that it is online. -/
def AnnouncedOnline (messages : List WsUpstreamState) (url : Url) : Prop :=
  Write.last url (messages.map (·.write)) = some true

/-- The latest record of the PDA is active under the URL. -/
def ActiveAt (lib : RegistryLibrary) (writes : List (Write Pubkey ErRecord)) (pda : Pubkey)
    (url : Url) : Prop :=
  ∃ record, Write.last pda writes = some record ∧ record.status = .active ∧
    record.wsUrl lib.toUrlLibrary = some url

def BaseChainUpstreams.urls (upstreams : BaseChainUpstreams) : List Url :=
  upstreams.upstreams.map (·.wsUrl)

/-- Distinct identities have distinct URLs, and none has one of the base chain. -/
structure SeparateUrls (lib : RegistryLibrary) (upstreams : BaseChainUpstreams)
    (writes : List (Write Pubkey ErRecord)) : Prop where
  nodes : ∀ pda record pda' record' url, .put pda record ∈ writes → .put pda' record' ∈ writes →
    record.wsUrl lib.toUrlLibrary = some url → record'.wsUrl lib.toUrlLibrary = some url →
    record.identity = record'.identity
  chain : ∀ pda record url, .put pda record ∈ writes → record.wsUrl lib.toUrlLibrary = some url →
    url ∉ upstreams.urls

theorem SeparateUrls.subset {lib : RegistryLibrary} {upstreams : BaseChainUpstreams}
    {writes more : List (Write Pubkey ErRecord)} (separate : SeparateUrls lib upstreams more)
    (included : writes ⊆ more) : SeparateUrls lib upstreams writes where
  nodes pda record pda' record' url first second :=
    separate.nodes pda record pda' record' url (included first) (included second)
  chain pda record url written := separate.chain pda record url (included written)

namespace RoutingTable

/-- `new` assumes the base chain to be online. -/
def chainAnnouncements (upstreams : BaseChainUpstreams) : List WsUpstreamState :=
  upstreams.upstreams.map fun upstream =>
    { isOnline := true, url := upstream.wsUrl, target := .chain }

/-- What a table announces while it handles a sequence of notifications. -/
def announcements (lib : RegistryLibrary) :
    RoutingTable → List RegistryNotification → List WsUpstreamState
  | _, [] => []
  | table, notification :: rest =>
    let (next, announced) :=
      table.insertEntry lib notification.pubkey notification.account notification.probe
    announced ++ announcements lib next rest

/-- Everything announced from the construction of the table on. -/
def announced (lib : RegistryLibrary) (upstreams : BaseChainUpstreams) (staleAfter : Nat)
    (identity : Option Pubkey) (notifications : List RegistryNotification) : List WsUpstreamState :=
  chainAnnouncements upstreams ++
    announcements lib (initial upstreams staleAfter identity) notifications

/-- A record that gives a node another URL, or the removal of a node whose URL is not
the one it was registered with, comes when the node is not active. -/
def Orderly (lib : RegistryLibrary) (earlier : List RegistryNotification)
    (notification : RegistryNotification) : Prop :=
  ∀ latest first, Write.last notification.pubkey (registryWrites lib earlier) = some latest →
    Write.first notification.pubkey (registryWrites lib earlier) = some first →
    latest.status = .active →
    match lib.deserialize notification.account.data with
    | some record => latest.wsUrl lib.toUrlLibrary = record.wsUrl lib.toUrlLibrary
    | none => latest.wsUrl lib.toUrlLibrary = first.wsUrl lib.toUrlLibrary

variable {lib : RegistryLibrary} {table : RoutingTable} {upstreams : BaseChainUpstreams}
variable {staleAfter : Nat} {static : Option Pubkey} {notifications : List RegistryNotification}
variable {notification : RegistryNotification} {pda : Pubkey} {record first latest : ErRecord} {url : Url}

/-- The announced upstreams are the base chain and the active nodes. -/
def Faithful (lib : RegistryLibrary) (upstreams : BaseChainUpstreams) (staleAfter : Nat)
    (identity : Option Pubkey) (notifications : List RegistryNotification) : Prop :=
  ∀ url, AnnouncedOnline (announced lib upstreams staleAfter identity notifications) url ↔
    url ∈ upstreams.urls ∨ ∃ pda, ActiveAt lib (registryWrites lib notifications) pda url

theorem announcements_snoc :
    announcements lib table (notifications ++ [notification]) =
      announcements lib table notifications ++
        ((follow lib table notifications).insertEntry lib notification.pubkey notification.account
          notification.probe).2 := by
  induction notifications generalizing table with
  | nil => simp [announcements, follow]
  | cons head rest ih => simp [announcements, follow, ih]

theorem announcedOnline_snoc {messages : List WsUpstreamState} {message : WsUpstreamState} :
    AnnouncedOnline (messages ++ [message]) url ↔
      if url = message.url then message.isOnline = true else AnnouncedOnline messages url := by
  unfold AnnouncedOnline
  rw [List.map_append, List.map_singleton, Write.last_snoc]
  by_cases here : url = message.url
  · simp [WsUpstreamState.write, Write.keepLast, here]
  · simp [WsUpstreamState.write, Write.keepLast, here, Ne.symm here]

/-- One message about the URL of a node, with the URLs that are due to others. -/
private theorem announced_step_iff {chain own others online : Url → Prop} (isOnline : Prop)
    (before : ∀ other, online other ↔ chain other ∨ own other ∨ others other)
    (apart : ∀ other, own other → ¬ chain other ∧ ¬ others other)
    (alone : ¬ chain url ∧ ¬ others url) :
    (∀ other, (if other = url then isOnline else online other) ↔
        chain other ∨ (isOnline ∧ other = url) ∨ others other) ↔
      ∀ other, own other → other = url := by
  constructor
  · intro after other mine
    by_contra elsewhere
    have kept : if other = url then isOnline else online other := by
      rw [if_neg elsewhere]
      exact (before other).mpr (.inr (.inl mine))
    obtain ⟨offChain, unshared⟩ := apart other mine
    rcases (after other).mp kept with onChain | ⟨_, here⟩ | shared
    · exact offChain onChain
    · exact elsewhere here
    · exact unshared shared
  · intro only other
    by_cases here : other = url
    · subst here
      simp [alone.1, alone.2]
    · rw [if_neg here, before other]
      have none : ¬ own other := fun mine => here (only other mine)
      simp [here, none]

theorem wsUrl_of_built {upstream : UpstreamRecord} {probe : Bool}
    (built : UpstreamRecord.newFromErRecord lib.toUrlLibrary probe record = some upstream) :
    record.wsUrl lib.toUrlLibrary = some upstream.wsUrl := by
  have endpoint := UpstreamRecord.newFromErRecord_endpoint built
  simp [ErRecord.wsUrl, endpoint, UpstreamRecord.endpoint]

/-- What a decoded record announces. -/
theorem insertEntry_announces {upstream : UpstreamRecord}
    (decoded : lib.deserialize notification.account.data = some record)
    (built : UpstreamRecord.newFromErRecord lib.toUrlLibrary notification.probe record =
      some upstream) :
    (table.insertEntry lib notification.pubkey notification.account notification.probe).2 =
      [{ isOnline := record.status = .active, url := upstream.wsUrl, target := .ephem }] := by
  have carried := carryProximity_endpoint table record.identity upstream
  have address : (table.carryProximity record.identity upstream).wsUrl = upstream.wsUrl :=
    congrArg (fun endpoint => endpoint.2.1) carried
  simp [insertEntry, decoded, built, address]

/-- What a removal announces: the URL of the record the table holds. -/
theorem removeEntry_announces {records : Pubkey → Option ErRecord} (holds : Holds lib table records)
    (registered : records pda = some first) :
    ∃ url, first.wsUrl lib.toUrlLibrary = some url ∧
      (table.removeEntry pda).2 = [{ isOnline := false, url, target := .ephem }] := by
  obtain ⟨upstream, stored, endpoint⟩ := holds.present pda first registered
  have known : table.pdaToIdentity.lookup pda = some first.identity := by
    simp [holds.pdas, registered]
  refine ⟨upstream.wsUrl, ?_, ?_⟩
  · simp [ErRecord.wsUrl, endpoint, UpstreamRecord.endpoint]
  · simp [removeEntry, known, stored]

theorem removeEntry_silent {records : Pubkey → Option ErRecord} (holds : Holds lib table records)
    (unregistered : records pda = none) : (table.removeEntry pda).2 = [] := by
  have unknown : table.pdaToIdentity.lookup pda = none := by simp [holds.pdas, unregistered]
  simp [removeEntry, unknown]

/-- Every record written has a URL. -/
theorem wsUrl_of_written (genuine : ∀ notification ∈ notifications, notification.Genuine lib)
    (empty : lib.deserialize [] = none)
    (written : .put pda record ∈ registryWrites lib notifications) :
    ∃ url, record.wsUrl lib.toUrlLibrary = some url := by
  obtain ⟨notification, member, write⟩ := List.mem_map.mp written
  rcases genuine notification member with ⟨decoded, upstream, _, found, built⟩ | closed
  · have same : decoded = record := by
      simp only [RegistryNotification.write, found, Write.put.injEq] at write
      exact write.2
    exact ⟨_, same ▸ wsUrl_of_built built⟩
  · simp [RegistryNotification.write, closed, empty] at write

section Step

variable {writes : List (Write Pubkey ErRecord)}

theorem activeAt_put {key : Pubkey} :
    ActiveAt lib (writes ++ [.put pda record]) key url ↔
      if key = pda then record.status = .active ∧ record.wsUrl lib.toUrlLibrary = some url
      else ActiveAt lib writes key url := by
  unfold ActiveAt
  rw [Write.last_snoc]
  by_cases here : key = pda
  · subst here
    simp [Write.keepLast]
  · simp [Write.keepLast, here, Ne.symm here]

theorem activeAt_remove {key : Pubkey} :
    ActiveAt lib (writes ++ [.remove pda]) key url ↔ key ≠ pda ∧ ActiveAt lib writes key url := by
  unfold ActiveAt
  rw [Write.last_snoc]
  by_cases here : key = pda
  · subst here
    simp [Write.keepLast]
  · simp [Write.keepLast, here, Ne.symm here]

/-- The URL of a node belongs to no other PDA. -/
theorem ActiveAt.unique {key : Pubkey} (paired : OneToOne writes)
    (separate : SeparateUrls lib upstreams writes) (written : .put pda record ∈ writes)
    (address : record.wsUrl lib.toUrlLibrary = some url) (active : ActiveAt lib writes key url) :
    key = pda := by
  obtain ⟨other, newest, _, address'⟩ := active
  have written' := Write.mem_of_last newest
  have identity := separate.nodes _ _ _ _ _ written' written address' address
  exact (paired _ _ _ _ written' written).mpr identity

/-- The upstreams due before a step, split by the PDA the step is about. -/
private theorem due_iff (key : Pubkey) :
    (url ∈ upstreams.urls ∨ ∃ pda, ActiveAt lib writes pda url) ↔
      url ∈ upstreams.urls ∨ ActiveAt lib writes key url ∨
        ∃ pda, pda ≠ key ∧ ActiveAt lib writes pda url := by
  apply or_congr_right
  constructor
  · rintro ⟨pda, active⟩
    by_cases here : pda = key
    · exact .inl (here ▸ active)
    · exact .inr ⟨pda, here, active⟩
  · rintro (active | ⟨pda, _, active⟩)
    · exact ⟨key, active⟩
    · exact ⟨pda, active⟩

/-- The node's own URLs are due to nobody else. -/
private theorem own_apart (paired : OneToOne writes) (separate : SeparateUrls lib upstreams writes)
    (key : Pubkey) (other : Url) (active : ActiveAt lib writes key other) :
    other ∉ upstreams.urls ∧ ¬ ∃ pda, pda ≠ key ∧ ActiveAt lib writes pda other := by
  obtain ⟨record, newest, _, address⟩ := active
  have written := Write.mem_of_last newest
  refine ⟨separate.chain _ _ _ written address, ?_⟩
  rintro ⟨pda, different, theirs⟩
  exact different (ActiveAt.unique paired separate written address theirs)

private theorem due_put_iff (address : record.wsUrl lib.toUrlLibrary = some url) (other : Url) :
    (∃ key, ActiveAt lib (writes ++ [.put pda record]) key other) ↔
      (record.status = .active ∧ other = url) ∨ ∃ key, key ≠ pda ∧ ActiveAt lib writes key other := by
  constructor
  · rintro ⟨key, active⟩
    rw [activeAt_put] at active
    by_cases here : key = pda
    · rw [if_pos here, address, Option.some.injEq] at active
      exact .inl ⟨active.1, active.2.symm⟩
    · rw [if_neg here] at active
      exact .inr ⟨key, here, active⟩
  · rintro (⟨active, rfl⟩ | ⟨key, different, active⟩)
    · exact ⟨pda, activeAt_put.mpr (by simp [active, address])⟩
    · exact ⟨key, activeAt_put.mpr (by rwa [if_neg different])⟩

private theorem due_remove_iff (other : Url) :
    (∃ key, ActiveAt lib (writes ++ [.remove pda]) key other) ↔
      ∃ key, key ≠ pda ∧ ActiveAt lib writes key other := by
  simp only [activeAt_remove]

end Step

theorem registryWrites_snoc :
    registryWrites lib (notifications ++ [notification]) =
      registryWrites lib notifications ++ [notification.write lib] := by
  simp [registryWrites]

theorem announced_snoc :
    announced lib upstreams staleAfter static (notifications ++ [notification]) =
      announced lib upstreams staleAfter static notifications ++
        ((follow lib (initial upstreams staleAfter static) notifications).insertEntry lib
          notification.pubkey notification.account notification.probe).2 := by
  simp [announced, announcements_snoc]

/-- A record keeps the announcements faithful exactly if the node was not active under
another URL. -/
private theorem faithful_put_iff {upstream : UpstreamRecord}
    (faithful : Faithful lib upstreams staleAfter static notifications)
    (decoded : lib.deserialize notification.account.data = some record)
    (built : UpstreamRecord.newFromErRecord lib.toUrlLibrary notification.probe record =
      some upstream)
    (paired : OneToOne (registryWrites lib (notifications ++ [notification])))
    (separate : SeparateUrls lib upstreams (registryWrites lib (notifications ++ [notification]))) :
    Faithful lib upstreams staleAfter static (notifications ++ [notification]) ↔
      ∀ other, ActiveAt lib (registryWrites lib notifications) notification.pubkey other →
        other = upstream.wsUrl := by
  have write : notification.write lib = .put notification.pubkey record := by
    simp [RegistryNotification.write, decoded]
  have address := wsUrl_of_built built
  rw [registryWrites_snoc, write] at paired separate
  have included : registryWrites lib notifications ⊆
      registryWrites lib notifications ++ [.put notification.pubkey record] :=
    List.subset_append_left _ _
  have written : .put notification.pubkey record ∈
      registryWrites lib notifications ++ [.put notification.pubkey record] := by simp
  have alone : upstream.wsUrl ∉ upstreams.urls ∧ ¬ ∃ key, key ≠ notification.pubkey ∧
      ActiveAt lib (registryWrites lib notifications) key upstream.wsUrl := by
    refine ⟨separate.chain _ _ _ written address, ?_⟩
    rintro ⟨key, different, record', newest, active, address'⟩
    refine different (ActiveAt.unique paired separate written address ?_)
    exact activeAt_put.mpr (by rw [if_neg different]; exact ⟨record', newest, active, address'⟩)
  rw [← announced_step_iff (record.status = .active)
    (fun other => (faithful other).trans (due_iff notification.pubkey))
    (own_apart (paired.subset included) (separate.subset included) notification.pubkey) alone]
  unfold Faithful
  rw [announced_snoc, insertEntry_announces decoded built, registryWrites_snoc, write]
  simp only [announcedOnline_snoc, decide_eq_true_eq, due_put_iff address]

/-- A removal keeps them faithful exactly if the node was not active under another URL
than the one it was registered with. -/
private theorem faithful_remove_iff
    (faithful : Faithful lib upstreams staleAfter static notifications)
    (holds : Holds lib (follow lib (initial upstreams staleAfter static) notifications)
      (fun pda => Write.first pda (registryWrites lib notifications)))
    (closed : notification.account = { lamports := 0, data := [] }) (empty : lib.deserialize [] = none)
    (registered : Write.first notification.pubkey (registryWrites lib notifications) = some first)
    (paired : OneToOne (registryWrites lib notifications))
    (separate : SeparateUrls lib upstreams (registryWrites lib notifications)) :
    ∃ url, first.wsUrl lib.toUrlLibrary = some url ∧
      (Faithful lib upstreams staleAfter static (notifications ++ [notification]) ↔
        ∀ other, ActiveAt lib (registryWrites lib notifications) notification.pubkey other →
          other = url) := by
  have write : notification.write lib = .remove notification.pubkey := by
    simp [RegistryNotification.write, closed, empty]
  obtain ⟨url, address, announces⟩ := removeEntry_announces holds registered
  have written := Write.mem_of_first registered
  have alone : url ∉ upstreams.urls ∧ ¬ ∃ key, key ≠ notification.pubkey ∧
      ActiveAt lib (registryWrites lib notifications) key url := by
    refine ⟨separate.chain _ _ _ written address, ?_⟩
    rintro ⟨key, different, active⟩
    exact different (ActiveAt.unique paired separate written address active)
  refine ⟨url, address, ?_⟩
  rw [← announced_step_iff False
    (fun other => (faithful other).trans (due_iff notification.pubkey))
    (own_apart paired separate notification.pubkey) alone]
  unfold Faithful
  rw [announced_snoc, registryWrites_snoc, write]
  simp [insertEntry, closed, empty, announces, announcedOnline_snoc, due_remove_iff]

/-- A removal of a PDA that is not registered changes nothing. -/
private theorem faithful_unregistered
    (faithful : Faithful lib upstreams staleAfter static notifications)
    (holds : Holds lib (follow lib (initial upstreams staleAfter static) notifications)
      (fun pda => Write.first pda (registryWrites lib notifications)))
    (closed : notification.account = { lamports := 0, data := [] }) (empty : lib.deserialize [] = none)
    (unregistered : Write.first notification.pubkey (registryWrites lib notifications) = none) :
    Faithful lib upstreams staleAfter static (notifications ++ [notification]) := by
  have write : notification.write lib = .remove notification.pubkey := by
    simp [RegistryNotification.write, closed, empty]
  have none : Write.last notification.pubkey (registryWrites lib notifications) = none := by
    have both := Write.first_isSome_iff_last_isSome notification.pubkey (registryWrites lib notifications)
    simpa [unregistered] using both
  intro url
  rw [announced_snoc, registryWrites_snoc, write, due_remove_iff]
  have silent := removeEntry_silent holds unregistered
  have same := (faithful url).trans (due_iff notification.pubkey)
  simpa [insertEntry, closed, empty, silent, ActiveAt, none] using same

/-- From a faithful state, exactly the orderly notifications lead to a faithful one. -/
theorem Faithful.step_iff (empty : lib.deserialize [] = none)
    (faithful : Faithful lib upstreams staleAfter static notifications)
    (genuine : ∀ item ∈ notifications ++ [notification], item.Genuine lib)
    (paired : OneToOne (registryWrites lib (notifications ++ [notification])))
    (separate : SeparateUrls lib upstreams (registryWrites lib (notifications ++ [notification]))) :
    Faithful lib upstreams staleAfter static (notifications ++ [notification]) ↔
      Orderly lib notifications notification := by
  have earlier : ∀ item ∈ notifications, item.Genuine lib :=
    fun item member => genuine item (List.mem_append_left _ member)
  have included : registryWrites lib notifications ⊆
      registryWrites lib (notifications ++ [notification]) := by simp [registryWrites]
  have holds : Holds lib (follow lib (RoutingTable.initial upstreams staleAfter static) notifications)
      (fun pda => Write.first pda (registryWrites lib notifications)) :=
    follow_holds_first empty notifications earlier (paired.subset included)
  -- the URL of the latest record, if it is active, is the one the step is about
  have orderly_iff {address : Option Url} {url : Url} (same : address = some url) :
      (∀ other, ActiveAt lib (registryWrites lib notifications) notification.pubkey other →
        other = url) ↔
      ∀ latest, Write.last notification.pubkey (registryWrites lib notifications) = some latest →
        latest.status = .active → latest.wsUrl lib.toUrlLibrary = address := by
    constructor
    · intro only latest newest active
      obtain ⟨other, described⟩ := wsUrl_of_written earlier empty (Write.mem_of_last newest)
      rw [described, same, only other ⟨latest, newest, active, described⟩]
    · rintro agree other ⟨latest, newest, active, described⟩
      have known := agree latest newest active
      rw [described, same] at known
      exact Option.some.inj known
  have both := Write.first_isSome_iff_last_isSome notification.pubkey (registryWrites lib notifications)
  rcases genuine notification (by simp) with ⟨record, upstream, _, decoded, built⟩ | closed
  · rw [faithful_put_iff faithful decoded built paired separate, orderly_iff (wsUrl_of_built built)]
    simp only [Orderly, decoded]
    constructor
    · intro agree latest first newest _ active
      exact agree latest newest active
    · intro orderly latest newest active
      obtain ⟨first, oldest⟩ := Option.isSome_iff_exists.mp (both.mpr (by simp [newest]))
      exact orderly latest first newest oldest active
  · simp only [Orderly, closed, empty]
    cases oldest : Write.first notification.pubkey (registryWrites lib notifications) with
    | none =>
      refine ⟨?_, fun _ => faithful_unregistered faithful holds closed empty oldest⟩
      intro _ latest first _ registered
      cases registered
    | some first =>
      obtain ⟨url, address, step⟩ := faithful_remove_iff faithful holds closed empty oldest
        (paired.subset included) (separate.subset included)
      rw [step, orderly_iff address]
      constructor
      · intro agree latest first' newest same active
        cases same
        exact agree latest newest active
      · intro orderly latest newest active
        exact orderly latest first newest rfl active

theorem Faithful.initial : Faithful lib upstreams staleAfter static [] := by
  intro url
  have online : ∀ records : List UpstreamRecord,
      AnnouncedOnline (records.map fun upstream =>
        { isOnline := true, url := upstream.wsUrl, target := .chain }) url ↔
      url ∈ records.map (·.wsUrl) := by
    intro records
    induction records using List.reverseRecOn with
    | nil => simp [AnnouncedOnline]
    | append_singleton earlier upstream ih =>
      rw [List.map_append, List.map_singleton, announcedOnline_snoc]
      by_cases here : url = upstream.wsUrl
      · simp [here]
      · simpa [here] using ih
  simpa [announced, announcements, chainAnnouncements, BaseChainUpstreams.urls, registryWrites,
    ActiveAt] using online upstreams.upstreams

/-- After each notification of a sequence the announced upstreams are the base chain
and the registry's active nodes, exactly if every notification is orderly. -/
theorem announced_follows_registry_iff (empty : lib.deserialize [] = none)
    (notifications : List RegistryNotification)
    (genuine : ∀ notification ∈ notifications, notification.Genuine lib)
    (paired : OneToOne (registryWrites lib notifications))
    (separate : SeparateUrls lib upstreams (registryWrites lib notifications)) :
    (∀ earlier later, notifications = earlier ++ later →
      Faithful lib upstreams staleAfter static earlier) ↔
    ∀ earlier notification later, notifications = earlier ++ notification :: later →
      Orderly lib earlier notification := by
  apply forall_extension_iff Faithful.initial
  intro earlier notification later same faithful
  have included : earlier ++ [notification] ⊆ notifications := by
    simp [same]
  have written : registryWrites lib (earlier ++ [notification]) ⊆ registryWrites lib notifications :=
    List.map_subset _ included
  exact faithful.step_iff empty (fun item member => genuine item (included member))
    (paired.subset written) (separate.subset written)

private theorem relocation_separate (datas : List (List UInt8))
    (known : ∀ data ∈ datas, data = [1] ∨ data = [2] ∨ data = []) :
    SeparateUrls relocationLibrary relocationUpstreams
      (registryWrites relocationLibrary (datas.map relocationNotice)) := by
  have only {pda : Pubkey} {record : ErRecord} (written : .put pda record ∈
      registryWrites relocationLibrary (datas.map relocationNotice)) :
      record = relocatingNode "https://one.er" ∨ record = relocatingNode "https://two.er" := by
    simp only [registryWrites, List.map_map, List.mem_map, Function.comp_apply] at written
    obtain ⟨data, member, write⟩ := written
    rcases known data member with rfl | rfl | rfl <;> cases write
    · exact .inl rfl
    · exact .inr rfl
  constructor
  · intro pda record pda' record' url first second _ _
    rcases only first with rfl | rfl <;> rcases only second with rfl | rfl <;> rfl
  · intro pda record url written address
    rcases only written with rfl | rfl <;> cases address <;> decide

/-- A node moves from one URL to another: its old URL is never announced offline. -/
theorem relocation_left_online :
    (∀ notification ∈ [relocationNotice [1], relocationNotice [2]],
        notification.Genuine relocationLibrary) ∧
      OneToOne (registryWrites relocationLibrary [relocationNotice [1], relocationNotice [2]]) ∧
      SeparateUrls relocationLibrary relocationUpstreams
        (registryWrites relocationLibrary [relocationNotice [1], relocationNotice [2]]) ∧
      ¬ Faithful relocationLibrary relocationUpstreams 0 none
        [relocationNotice [1], relocationNotice [2]] := by
  refine ⟨relocation_genuine [[1], [2]] (by decide), relocation_paired [[1], [2]] (by decide),
    relocation_separate [[1], [2]] (by decide), ?_⟩
  · intro faithful
    have online : AnnouncedOnline (announced relocationLibrary relocationUpstreams 0 none
        [relocationNotice [1], relocationNotice [2]]) { scheme := "wss", rest := "//one.er" } := by
      unfold AnnouncedOnline
      decide
    rcases (faithful _).mp online with chain | ⟨pda, record, newest, _, address⟩
    · revert chain
      decide
    · have moved : record = relocatingNode "https://two.er" := by
        by_cases here : Pubkey.repeating 1 = pda
        · subst here
          exact (Option.some.inj newest).symm
        · simp [registryWrites, RegistryNotification.write, relocationNotice, relocationLibrary,
            Write.last, Write.keepLast, here] at newest
      subst moved
      revert address
      decide

/-- A node that is closed before it registers at its new URL is followed. -/
theorem announced_follows_renewal :
    Faithful relocationLibrary relocationUpstreams 0 none
      [relocationNotice [1], relocationNotice [], relocationNotice [2]] := by
  refine (announced_follows_registry_iff rfl
    [relocationNotice [1], relocationNotice [], relocationNotice [2]] ?_ ?_ ?_).mpr ?_ _ [] (by simp)
  · exact relocation_genuine [[1], [], [2]] (by decide)
  · exact relocation_paired [[1], [], [2]] (by decide)
  · exact relocation_separate [[1], [], [2]] (by decide)
  · intro earlier notification later same latest first newest oldest _
    rcases earlier with _ | ⟨_, _ | ⟨_, _ | ⟨_, rest⟩⟩⟩
    · cases same
      cases newest
    · cases same
      cases newest
      cases oldest
      rfl
    · cases same
      cases newest
    · simp at same

/-- A record that is no longer active takes its URL offline exactly if the node
still answers the probe. -/
theorem insertEntry_deactivates_iff {account : Account} {probe : Bool}
    (decoded : lib.deserialize account.data = some record) (inactive : record.status ≠ .active)
    (address : record.wsUrl lib.toUrlLibrary = some url) :
    { isOnline := false, url, target := .ephem } ∈ (table.insertEntry lib pubkey account probe).2 ↔
      probe = true := by
  cases probe with
  | false =>
    have unbuilt : UpstreamRecord.newFromErRecord lib.toUrlLibrary false record = none := by
      cases lib.parse record.addr <;> simp [UpstreamRecord.newFromErRecord, UpstreamRecord.newFromUrl]
    simp [insertEntry, decoded, unbuilt]
  | true =>
    refine iff_of_true ?_ rfl
    obtain ⟨endpoint, described, located⟩ := Option.map_eq_some_iff.mp address
    obtain ⟨upstream, built, rfl⟩ := Option.map_eq_some_iff.mp described
    let notification : RegistryNotification := { pubkey, account, probe := true }
    have announces : (table.insertEntry lib pubkey account true).2 =
        [{ isOnline := record.status = .active, url := upstream.wsUrl, target := .ephem }] :=
      @insertEntry_announces lib table notification record upstream decoded built
    subst located
    simp [announces, inactive, UpstreamRecord.endpoint]

/-- The relocating node with the record `[3]` that retires it from its first address. -/
def retirementLibrary : RegistryLibrary :=
  { relocationLibrary with
    deserialize := fun data =>
      if data = [3] then some { relocatingNode "https://one.er" with status := .inactive 1 }
      else relocationLibrary.deserialize data }

/-- A node that is down when the registry retires it stays announced online. -/
theorem retired_unreachable_left_online :
    ¬ ∀ (lib : RegistryLibrary) upstreams staleAfter static notifications pubkey account record url
        probe, lib.deserialize account.data = some record → record.status ≠ .active →
      record.wsUrl lib.toUrlLibrary = some url →
      (((initial upstreams staleAfter static).follow lib notifications).inner.lookup
        record.identity).map (·.wsUrl) = some url →
      AnnouncedOnline (announced lib upstreams staleAfter static notifications) url →
      { isOnline := false, url, target := .ephem } ∈
        (((initial upstreams staleAfter static).follow lib notifications).insertEntry lib pubkey
          account probe).2 := by
  intro claimed
  have sent := claimed retirementLibrary relocationUpstreams 0 none [relocationNotice [1]]
    (.repeating 1) { lamports := 1, data := [3] } _ { scheme := "wss", rest := "//one.er" } false
    rfl (by decide) (by decide) (by decide) (by unfold AnnouncedOnline; decide)
  revert sent
  decide

/-- The same node, still reachable, is taken offline. -/
theorem retired_reachable_taken_offline :
    { isOnline := false, url := { scheme := "wss", rest := "//one.er" }, target := .ephem } ∈
      (((initial relocationUpstreams 0 none).follow retirementLibrary
        [relocationNotice [1]]).insertEntry retirementLibrary (.repeating 1)
          { lamports := 1, data := [3] } true).2 :=
  have decoded : retirementLibrary.deserialize [3] =
      some { relocatingNode "https://one.er" with status := .inactive 1 } := rfl
  (insertEntry_deactivates_iff decoded (by decide) (by decide)).mpr rfl

end RoutingTable

end MagicRouter
