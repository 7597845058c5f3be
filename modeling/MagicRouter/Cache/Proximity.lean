import MagicRouter.Cache.Updater
import MagicRouter.Library.Run

/-! Which pings the proximity of a table record comes from. A ping reports under
the identity alone, so its result reaches whatever record the identity has when it
ends. A ghost list per identity keeps the results its record has taken in. -/

namespace MagicRouter

open Library

/-- The updater, with the pings each record of its table has taken in since the
record was put there. -/
structure Measured where
  updater : Updater
  applied : Pubkey → List (Ping × PingResult)

namespace UpstreamRecord

/-- The three fields that pings change. -/
def proximity (record : UpstreamRecord) : UInt64 × Option Nat × UInt8 :=
  (record.proximityMicros, record.lastProximityUpdate, record.consecutivePingFailures)

/-- The record of a node that was never pinged, at the same endpoint. -/
def unmeasured (record : UpstreamRecord) : UpstreamRecord :=
  fresh record.client record.wsUrl record.info

/-- The record after the results of the given pings. -/
def replay (record : UpstreamRecord) (applied : List (Ping × PingResult)) : UpstreamRecord :=
  applied.foldl (fun record entry => record.settle entry.2) record

@[simp] theorem settle_wsUrl (record : UpstreamRecord) (result : PingResult) :
    (record.settle result).wsUrl = record.wsUrl := by
  cases result <;> rfl

theorem settle_unmeasured (record : UpstreamRecord) (result : PingResult) :
    (record.settle result).unmeasured = record.unmeasured := by
  cases result <;> rfl

theorem newFromErRecord_unmeasured {lib : UrlLibrary} {record : ErRecord}
    {upstream : UpstreamRecord} (built : newFromErRecord lib probe record = some upstream) :
    upstream = upstream.unmeasured := by
  obtain ⟨_, _, _, rfl⟩ := newFromErRecord_fresh built
  rfl

end UpstreamRecord

namespace RoutingTable

/-- The record a notification puts into the table, with its identity: that of a
reachable node which the table does not know. -/
def registers (lib : RegistryLibrary) (table : RoutingTable) (account : Account) (probe : Bool) :
    Option (Pubkey × UpstreamRecord) := do
  let record ← lib.deserialize account.data
  let upstream ← UpstreamRecord.newFromErRecord lib.toUrlLibrary probe record
  if (table.inner.lookup record.identity).isNone then some (record.identity, upstream) else none

theorem registers_unmeasured {lib : RegistryLibrary} {table : RoutingTable} {account : Account}
    {probe : Bool} {identity : Pubkey} {upstream : UpstreamRecord}
    (entered : table.registers lib account probe = some (identity, upstream)) :
    upstream = upstream.unmeasured := by
  simp only [registers, Option.bind_eq_bind, Option.bind_eq_some_iff] at entered
  obtain ⟨_, _, _, built, same⟩ := entered
  split at same
  · cases same
    exact UpstreamRecord.newFromErRecord_unmeasured built
  · cases same

/-- Records leave the table or enter it, but none is replaced. -/
theorem insertEntry_inner (lib : RegistryLibrary) (table : RoutingTable) (pubkey : Pubkey)
    (account : Account) (probe : Bool) :
    (table.registers lib account probe = none ∧ ∀ identity record,
      (table.insertEntry lib pubkey account probe).1.inner.lookup identity = some record →
        table.inner.lookup identity = some record) ∨
    ∃ identity upstream, table.registers lib account probe = some (identity, upstream) ∧
      table.inner.lookup identity = none ∧
      (table.insertEntry lib pubkey account probe).1.inner = table.inner.insert identity upstream := by
  unfold insertEntry registers
  cases lib.deserialize account.data with
  | none =>
    refine .inl ⟨rfl, ?_⟩
    intro identity record found
    simp only at found
    split at found
    · unfold removeEntry at found
      split at found
      · exact found
      · dsimp only at found
        split at found
        · exact found
        · rw [Store.lookup_erase_if] at found
          split at found
          · cases found
          · exact found
    · exact found
  | some record =>
    dsimp only [Option.bind_eq_bind, Option.bind_some]
    cases built : UpstreamRecord.newFromErRecord lib.toUrlLibrary probe record with
    | none => exact .inl ⟨rfl, fun _ _ found => found⟩
    | some upstream =>
      cases known : table.inner.lookup record.identity with
      | none =>
        refine .inr ⟨record.identity, upstream, rfl, known, ?_⟩
        simp [carryProximity, known, Store.insertNew, AList.lookup_eq_none.mp known]
      | some current =>
        refine .inl ⟨rfl, ?_⟩
        intro identity other found
        rw [Store.lookup_insertNew, known] at found
        split at found
        · subst identity
          simpa [known] using found
        · exact found

end RoutingTable

namespace Measured

/-- The updater just started on the table that `RoutingTable::new` has filled. -/
def start (lib : UpdaterLibrary) (upstreams : BaseChainUpstreams) (staleAfter : Nat)
    (static : Option Pubkey) (accounts : List RegistryNotification) (requestId : RequestId)
    (subscriberId : SubscriberId) (tx : Channel) : Measured where
  updater := (Updater.start lib ((RoutingTable.initial upstreams staleAfter static).follow
    lib.toRegistryLibrary accounts) requestId subscriberId tx).1
  applied _ := []

/-- The ping an event ends, when its identity has a record to report to. -/
def settles (u : Updater) : UpdaterEvent → Option (Ping × PingResult)
  | .ping index result =>
    u.pings[index]?.bind fun ping =>
      if (u.table.inner.lookup ping.pubkey).isSome then some (ping, result) else none
  | _ => none

/-- One iteration of the updater. What a record has taken in is forgotten with it. -/
def step (lib : UpdaterLibrary) (s : Measured) (event : UpdaterEvent) : Option Measured :=
  (s.updater.handle lib event).map fun next =>
    { updater := next.1
      applied := fun identity =>
        if (next.1.table.inner.lookup identity).isNone then []
        else s.applied identity ++
          (settles s.updater event).toList.filter fun entry => entry.1.pubkey = identity }

/-- The record of `identity` in the table. -/
def record (s : Measured) (identity : Pubkey) : Option UpstreamRecord :=
  s.updater.table.inner.lookup identity

/-- The proximity of every record comes from pings launched at a record with its
URL, and from no others. -/
def Owned (s : Measured) : Prop :=
  ∀ identity record, s.record identity = some record →
    record.proximity = (record.unmeasured.replay (s.applied identity)).proximity ∧
      ∀ entry ∈ s.applied identity, entry.1.wsUrl = record.wsUrl

/-- Some ping ends. -/
def Ends : UpdaterEvent → Prop
  | .ping _ _ => True
  | _ => False

/-- The proximities are owned and stay so in whatever order, and with whatever
results, pings under way end next. -/
def OwnedWhateverEnds (lib : UpdaterLibrary) (s : Measured) : Prop :=
  ∀ events t, (∀ event ∈ events, Ends event) → Run (Fires (step lib)) s events t → t.Owned

/-- The node an event registers in the table. -/
def registered (lib : UpdaterLibrary) (s : Measured) : UpdaterEvent → Option (Pubkey × UpstreamRecord)
  | .message (.notification _ _ payload) probe =>
    (Updater.notified lib payload).bind fun account =>
      s.updater.table.registers lib.toRegistryLibrary account.2 probe
  | _ => none

/-- No node is registered while a ping launched at another URL of the same identity
is still under way. -/
def RegistersUnpinged (lib : UpdaterLibrary) (s : Measured) (event : UpdaterEvent) : Prop :=
  ∀ identity upstream, s.registered lib event = some (identity, upstream) →
    ∀ ping ∈ s.updater.pings, ping.pubkey = identity → ping.wsUrl = upstream.wsUrl

/-- Every ping under way was launched at the URL its identity has now. -/
def Current (s : Measured) : Prop :=
  ∀ ping ∈ s.updater.pings, ∀ record, s.record ping.pubkey = some record →
    ping.wsUrl = record.wsUrl

/-- The ghost lists account for all that happened to the records. -/
structure Replayed (s : Measured) : Prop where
  forgotten : ∀ identity, s.record identity = none → s.applied identity = []
  replayed : ∀ identity record, s.record identity = some record →
    record = record.unmeasured.replay (s.applied identity)

/-- What an iteration does to the records, to the pings under way and to the lists
of those taken in. -/
inductive Change (lib : UpdaterLibrary) (s : Measured) (event : UpdaterEvent) (t : Measured) : Prop where
  /-- records may leave, and pings may be launched or end without effect -/
  | quiet (settled : settles s.updater event = none) (unregistered : s.registered lib event = none)
      (pings : ∀ ping ∈ t.updater.pings, ping ∈ s.updater.pings ∨
        ∃ record, s.record ping.pubkey = some record ∧ ping.wsUrl = record.wsUrl)
      (records : ∀ identity record, t.record identity = some record →
        s.record identity = some record)
  | registration (identity : Pubkey) (upstream : UpstreamRecord)
      (settled : settles s.updater event = none)
      (entered : s.registered lib event = some (identity, upstream))
      (vacant : s.record identity = none) (unpinged : upstream = upstream.unmeasured)
      (pings : t.updater.pings = s.updater.pings)
      (records : ∀ other, t.record other = if other = identity then some upstream else s.record other)
  | measurement (ping : Ping) (result : PingResult) (record : UpstreamRecord)
      (settled : settles s.updater event = some (ping, result))
      (unregistered : s.registered lib event = none) (ended : ping ∈ s.updater.pings)
      (found : s.record ping.pubkey = some record)
      (pings : ∀ other ∈ t.updater.pings, other ∈ s.updater.pings)
      (records : ∀ other, t.record other =
        if other = ping.pubkey then some (record.settle result) else s.record other)

variable {lib : UpdaterLibrary} {s t : Measured} {event : UpdaterEvent}

private theorem change_of_message {msg : PubsubMessage} {probe : Bool}
    (fired : step lib s (.message msg probe) = some t) : Change lib s (.message msg probe) t := by
  simp only [step, Updater.handle, Option.map_some, Option.some.injEq] at fired
  subst fired
  cases msg with
  | subscribed _ => exact .quiet rfl rfl (fun _ member => .inl member) fun _ _ found => found
  | disconnected _ => exact .quiet rfl rfl (fun _ member => .inl member) fun _ _ found => found
  | notification _ _ payload =>
    cases parsed : Updater.notified lib payload with
    | none =>
      refine .quiet rfl (by simp [registered, parsed]) ?_ ?_
      · intro ping member
        exact .inl (by simpa [Updater.receive, parsed] using member)
      · intro identity record found
        simpa [Updater.receive, parsed, Measured.record] using found
    | some reported =>
      obtain ⟨pubkey, account⟩ := reported
      rcases s.updater.table.insertEntry_inner lib.toRegistryLibrary pubkey account probe with
        ⟨unregistered, kept⟩ | ⟨identity, upstream, entered, vacant, inserted⟩
      · refine .quiet rfl (by simp [registered, parsed, unregistered]) ?_ ?_
        · intro ping member
          exact .inl (by simpa [Updater.receive, parsed] using member)
        · intro identity record found
          exact kept identity record (by simpa [Updater.receive, parsed, Measured.record] using found)
      · refine .registration identity upstream rfl (by simp [registered, parsed, entered]) vacant
          (RoutingTable.registers_unmeasured entered) (by simp [Updater.receive, parsed]) ?_
        intro other
        simp [Updater.receive, parsed, Measured.record, inserted, Store.lookup_insert_if]

private theorem change_of_ping {index : Nat} {result : PingResult}
    (fired : step lib s (.ping index result) = some t) : Change lib s (.ping index result) t := by
  obtain ⟨next, handled, rfl⟩ := Option.map_eq_some_iff.mp fired
  simp only [Updater.handle] at handled
  split at handled
  · cases handled
  rename_i ping under
  cases handled
  have ended : ping ∈ s.updater.pings := List.mem_of_getElem? under
  cases found : s.updater.table.inner.lookup ping.pubkey with
  | none =>
    refine .quiet (by simp [settles, under, found]) rfl ?_ ?_
    · intro other member
      exact .inl (List.mem_of_mem_eraseIdx (by simpa [Updater.settle, found] using member))
    · intro identity record present
      simpa [Updater.settle, found, Measured.record] using present
  | some record =>
    refine .measurement ping result record (by simp [settles, under, found]) rfl ended found ?_ ?_
    · intro other member
      exact List.mem_of_mem_eraseIdx (by simpa [Updater.settle, found] using member)
    · intro other
      simp [Updater.settle, found, Measured.record, Store.lookup_insert_if]

private theorem change_of_tick (fired : step lib s .tick = some t) : Change lib s .tick t := by
  obtain ⟨next, handled, rfl⟩ := Option.map_eq_some_iff.mp fired
  simp only [Updater.handle] at handled
  split at handled
  · cases handled
    exact .quiet rfl rfl (fun _ member => .inl member) fun _ _ found => found
  · cases handled
    refine .quiet rfl rfl ?_ fun _ _ found => found
    intro ping member
    rcases List.mem_append.mp member with old | launched
    · exact .inl old
    · obtain ⟨entry, listed, rfl⟩ := List.mem_map.mp launched
      exact .inr ⟨entry.2, Store.mem_entries_iff.mp listed, rfl⟩

theorem change_of_step (fired : step lib s event = some t) : Change lib s event t := by
  cases event with
  | message msg probe => exact change_of_message fired
  | ping index result => exact change_of_ping fired
  | tick => exact change_of_tick fired

theorem step_applied (fired : step lib s event = some t) (identity : Pubkey) :
    t.applied identity = if (t.record identity).isNone then []
      else s.applied identity ++
        (settles s.updater event).toList.filter fun entry => entry.1.pubkey = identity := by
  obtain ⟨next, _, rfl⟩ := Option.map_eq_some_iff.mp fired
  rfl

theorem applied_of_unsettled (fired : step lib s event = some t)
    (settled : settles s.updater event = none) {identity : Pubkey} {record : UpstreamRecord}
    (found : t.record identity = some record) : t.applied identity = s.applied identity := by
  rw [step_applied fired, found, settled]
  simp

theorem applied_of_settled (fired : step lib s event = some t) {ping : Ping} {result : PingResult}
    (settled : settles s.updater event = some (ping, result)) {identity : Pubkey}
    {record : UpstreamRecord} (found : t.record identity = some record) :
    t.applied identity = s.applied identity ++
      if identity = ping.pubkey then [(ping, result)] else [] := by
  rw [step_applied fired, found, settled]
  by_cases same : identity = ping.pubkey
  · simp [same]
  · simp [same, Ne.symm same]

theorem Replayed.step (replayed : Replayed s) (fired : step lib s event = some t) : Replayed t where
  forgotten identity absent := by
    rw [step_applied fired, absent]
    rfl
  replayed identity record found := by
    cases change_of_step fired with
    | quiet settled _ _ records =>
      rw [applied_of_unsettled fired settled found]
      exact replayed.replayed identity record (records identity record found)
    | registration entrant upstream settled _ vacant unpinged _ records =>
      rw [applied_of_unsettled fired settled found]
      rw [records] at found
      split at found
      · rename_i same
        cases found
        rw [same, replayed.forgotten entrant vacant]
        exact unpinged
      · exact replayed.replayed identity record found
    | measurement ping result old settled _ _ present _ records =>
      rw [applied_of_settled fired settled found]
      rw [records] at found
      split at found
      · rename_i same
        cases found
        subst same
        rw [UpstreamRecord.settle_unmeasured, if_pos rfl, UpstreamRecord.replay, List.foldl_append]
        exact congrArg (·.settle result) (replayed.replayed ping.pubkey old present)
      · rename_i different
        rw [if_neg different, List.append_nil]
        exact replayed.replayed identity record found

theorem owned_iff (replayed : Replayed s) :
    s.Owned ↔ ∀ identity record, s.record identity = some record →
      ∀ entry ∈ s.applied identity, entry.1.wsUrl = record.wsUrl := by
  constructor
  · intro owned identity record found
    exact (owned identity record found).2
  · intro sourced identity record found
    refine ⟨?_, sourced identity record found⟩
    exact congrArg UpstreamRecord.proximity (replayed.replayed identity record found)

/-- Without a ping taken in, or with one launched at the record's URL, the
proximities stay owned. -/
theorem Owned.step (owned : s.Owned) (replayed : Replayed s) (current : s.Current)
    (fired : step lib s event = some t) : t.Owned := by
  rw [owned_iff (replayed.step fired)]
  rw [owned_iff replayed] at owned
  intro identity record found entry member
  cases change_of_step fired with
  | quiet settled _ _ records =>
    rw [applied_of_unsettled fired settled found] at member
    exact owned identity record (records identity record found) entry member
  | registration entrant upstream settled _ vacant _ _ records =>
    rw [applied_of_unsettled fired settled found] at member
    rw [records] at found
    split at found
    · rename_i same
      rw [same, replayed.forgotten entrant vacant] at member
      cases member
    · exact owned identity record found entry member
  | measurement ping result old settled _ ended present _ records =>
    rw [applied_of_settled fired settled found] at member
    rw [records] at found
    split at found
    · rename_i same
      cases found
      subst same
      rw [if_pos rfl, List.mem_append, List.mem_singleton] at member
      rw [UpstreamRecord.settle_wsUrl]
      rcases member with earlier | rfl
      · exact owned _ old present entry earlier
      · exact current _ ended old present
    · rename_i different
      rw [if_neg different, List.append_nil] at member
      exact owned identity record found entry member

/-- From a state whose pings are current, exactly a registration can make one of
them outdated. -/
theorem Current.step_iff (current : s.Current) (fired : step lib s event = some t) :
    t.Current ↔ RegistersUnpinged lib s event := by
  cases change_of_step fired with
  | quiet _ unregistered pings records =>
    refine iff_of_true ?_ ?_
    · intro ping member record found
      rcases pings ping member with old | ⟨launching, present, same⟩
      · exact current ping old record (records _ record found)
      · rw [same, Option.some.inj (present.symm.trans (records _ record found))]
    · intro identity upstream entered
      rw [unregistered] at entered
      cases entered
  | registration entrant upstream _ entered vacant _ pings records =>
    constructor
    · intro later identity upstream' same ping member toward
      cases entered.symm.trans same
      apply later ping (pings ▸ member) upstream
      rw [records, if_pos toward]
    · intro unpinged ping member record found
      rw [pings] at member
      rw [records] at found
      split at found
      · rename_i toward
        cases found
        exact unpinged entrant upstream entered ping member toward
      · exact current ping member record found
  | measurement ping result old _ unregistered _ present pings records =>
    refine iff_of_true ?_ ?_
    · intro other member record found
      rw [records] at found
      split at found
      · rename_i same
        cases found
        rw [UpstreamRecord.settle_wsUrl]
        exact current other (pings other member) old (same ▸ present)
      · exact current other (pings other member) record found
    · intro identity upstream entered
      rw [unregistered] at entered
      cases entered

/-- Proximities are owned and no ping under way can change that. -/
structure Sound (s : Measured) : Prop where
  replayed : Replayed s
  owned : s.Owned
  current : s.Current

theorem Sound.step (sound : Sound s) (fired : Measured.step lib s event = some t)
    (unpinged : RegistersUnpinged lib s event) : Sound t where
  replayed := sound.replayed.step fired
  owned := sound.owned.step sound.replayed sound.current fired
  current := (sound.current.step_iff fired).mpr unpinged

/-- A ping that is not current spoils the record it ends at. -/
theorem owned_whateverEnds_iff (replayed : Replayed s) :
    OwnedWhateverEnds lib s ↔ s.Owned ∧ s.Current := by
  constructor
  · intro always
    refine ⟨always [] s (by simp) .nil, ?_⟩
    intro ping member record found
    obtain ⟨index, under⟩ := List.getElem?_of_mem member
    have fired : ∃ t, step lib s (.ping index .err) = some t := by
      simp [step, Updater.handle, under]
    obtain ⟨t, fired⟩ := fired
    have owned : t.Owned := always [.ping index .err] t (by simp [Ends]) (.single fired)
    cases change_of_step fired with
    | quiet settled _ _ _ =>
      have present : s.updater.table.inner.lookup ping.pubkey = some record := found
      simp [settles, under, present] at settled
    | registration _ _ _ entered => cases entered
    | measurement ended result old settled _ _ present _ records =>
      have same : ping = ended := by
        simp only [settles, under, Option.bind_some] at settled
        split at settled
        · exact (Prod.ext_iff.mp (Option.some.inj settled)).1
        · cases settled
      subst same
      cases found.symm.trans present
      have after : t.record ping.pubkey = some (record.settle result) := by
        rw [records, if_pos rfl]
      have applied := applied_of_settled fired settled after
      have sourced := (owned _ _ after).2 (ping, result) (by simp [applied])
      simpa using sourced
  · rintro ⟨owned, current⟩ events t ends run
    have sound : Sound s := ⟨replayed, owned, current⟩
    have kept : Sound t := by
      refine run.invariant_of_allowed sound ?_ ends
      intro s event t ends sound fired
      apply sound.step fired
      intro identity upstream entered
      cases event with
      | ping => cases entered
      | message => exact absurd ends id
      | tick => exact absurd ends id
    exact kept.owned

/-- What holds of every record that is registered holds of all records of a table that
follows the registry. -/
theorem follow_records {P : UpstreamRecord → Prop} (lib : RegistryLibrary)
    (registered : ∀ (table : RoutingTable) account probe identity upstream,
      table.registers lib account probe = some (identity, upstream) → P upstream)
    (table : RoutingTable) (before : ∀ identity record, table.inner.lookup identity = some record →
      P record) (notifications : List RegistryNotification) :
    ∀ identity record, (table.follow lib notifications).inner.lookup identity = some record →
      P record := by
  induction notifications generalizing table with
  | nil => exact before
  | cons notification rest ih =>
    apply ih
    intro identity record found
    rcases table.insertEntry_inner lib notification.pubkey notification.account notification.probe with
      ⟨_, kept⟩ | ⟨entrant, upstream, entered, vacant, inserted⟩
    · exact before identity record (kept identity record found)
    · rw [inserted, Store.lookup_insert_if] at found
      split at found
      · cases found
        exact registered _ _ _ _ _ entered
      · exact before identity record found

theorem Sound.start (lib : UpdaterLibrary) (upstreams : BaseChainUpstreams) (staleAfter : Nat)
    (static : Option Pubkey) (accounts : List RegistryNotification) (requestId : RequestId)
    (subscriberId : SubscriberId) (tx : Channel) :
    Sound (start lib upstreams staleAfter static accounts requestId subscriberId tx) := by
  have fresh := follow_records (P := fun record => record = record.unmeasured)
    lib.toRegistryLibrary (fun _ _ _ _ _ entered => RoutingTable.registers_unmeasured entered)
    (RoutingTable.initial upstreams staleAfter static) (by intro _ _ found; cases found) accounts
  refine ⟨⟨fun _ _ => rfl, fresh⟩, ?_, ?_⟩
  · intro identity record found
    refine ⟨congrArg UpstreamRecord.proximity (fresh identity record found), ?_⟩
    intro entry member
    cases member
  · intro ping member
    cases member

/-- Whatever pings end next, every record's proximity comes from pings launched at
its URL, exactly as long as no node is registered while a ping launched at another
URL of its identity is under way. -/
theorem owned_throughout_iff (upstreams : BaseChainUpstreams) (staleAfter : Nat)
    (static : Option Pubkey) (accounts : List RegistryNotification) (requestId : RequestId)
    (subscriberId : SubscriberId) (tx : Channel) (events : List UpdaterEvent)
    (run : Run (Fires (step lib))
      (start lib upstreams staleAfter static accounts requestId subscriberId tx) events t) :
    Throughout (step lib) (OwnedWhateverEnds lib)
        (start lib upstreams staleAfter static accounts requestId subscriberId tx) events ↔
      Run (Guarded (RegistersUnpinged lib) (Fires (step lib)))
        (start lib upstreams staleAfter static accounts requestId subscriberId tx) events t := by
  have sound := Sound.start lib upstreams staleAfter static accounts requestId subscriberId tx
  have unbounded : ∀ event ∈ events, (fun _ : UpdaterEvent => True) event := by simp
  refine throughout_iff_guarded sound.replayed
    ((owned_whateverEnds_iff sound.replayed).mpr ⟨sound.owned, sound.current⟩) ?_ ?_ run unbounded
  · intro s event t _ replayed fired
    exact replayed.step fired
  · intro s event t _ replayed always fired
    obtain ⟨owned, current⟩ := (owned_whateverEnds_iff replayed).mp always
    rw [owned_whateverEnds_iff (replayed.step fired), current.step_iff fired]
    exact and_iff_right (owned.step replayed current fired)

/-- The library of the relocating node; account `n` of a notification stands for the
record with bytes `[n]`, and account 0 for the closed one. -/
def movingLibrary : UpdaterLibrary where
  toRegistryLibrary := RoutingTable.relocationLibrary
  pubkeyFromStr _ := some (.repeating 1)
  decodeAccount
    | .num 0 => some { lamports := 0, data := [] }
    | .num n => some { lamports := 1, data := [UInt8.ofNat n] }
    | _ => none
  programId := .repeating 2

/-- The program notification that reports account `n`. -/
def movingNotice (n : Nat) : UpdaterEvent :=
  .message (.notification ⟨1⟩ .chain
    (.obj [("value", .obj [("pubkey", .str "pda"), ("account", .num n)])])) true

/-- The updater on a table with the node at its first address. -/
def beforeMove : Measured :=
  start movingLibrary RoutingTable.relocationUpstreams 0 none
    [RoutingTable.relocationNotice [1]] ⟨1⟩ ⟨1⟩ ⟨1⟩

/-- The node is pinged, leaves the registry and comes back at another address before
the reply. -/
def pingOvertaken : List UpdaterEvent :=
  [.tick, movingNotice 0, movingNotice 2, .ping 0 (.ok 250 1)]

/-- Whether the record of the relocating node has taken in a ping of another URL. -/
def spoilt (s : Measured) : Bool :=
  (s.record (.repeating 7)).any fun record =>
    (s.applied (.repeating 7)).any fun entry => decide (entry.1.wsUrl ≠ record.wsUrl)

/-- The ping of the first address sets the proximity of the second. -/
theorem pingOvertaken_measures_other_url :
    ¬ ∀ (lib : UpdaterLibrary) upstreams staleAfter static accounts requestId subscriberId tx events
      t, Run (Fires (step lib))
        (start lib upstreams staleAfter static accounts requestId subscriberId tx) events t →
      t.Owned := by
  intro claimed
  obtain ⟨t, run, mixed⟩ := exists_run_of_exec
    (show (exec (step movingLibrary) beforeMove pingOvertaken).map spoilt = some true by
      decide +kernel)
  have owned := claimed _ _ _ _ _ _ _ _ _ t run
  obtain ⟨record, found, mixed⟩ := (Option.any_eq_true _ _).mp mixed
  obtain ⟨entry, member, different⟩ := List.any_eq_true.mp mixed
  exact of_decide_eq_true different ((owned _ record found).2 entry member)

/-- An executable form of `RegistersUnpinged`. -/
def registersUnpinged (lib : UpdaterLibrary) (s : Measured) (event : UpdaterEvent) : Bool :=
  (s.registered lib event).all fun entrant => s.updater.pings.all fun ping =>
    decide (ping.pubkey = entrant.1 → ping.wsUrl = entrant.2.wsUrl)

theorem registersUnpinged_sound (checked : registersUnpinged lib s event = true) :
    RegistersUnpinged lib s event := by
  intro identity upstream entered ping member toward
  rw [registersUnpinged, entered, Option.all_some, List.all_eq_true] at checked
  exact of_decide_eq_true (checked ping member) toward

/-- With the reply in before the node leaves, its move keeps the proximities apart. -/
theorem owned_throughout_move :
    ∃ t, Run (Fires (step movingLibrary)) beforeMove
        [.tick, .ping 0 (.ok 250 1), movingNotice 0, movingNotice 2] t ∧
      Throughout (step movingLibrary) (OwnedWhateverEnds movingLibrary) beforeMove
        [.tick, .ping 0 (.ok 250 1), movingNotice 0, movingNotice 2] := by
  obtain ⟨t, run, _⟩ := exists_run_of_exec
    (show (exec (checkedStep (registersUnpinged movingLibrary) (step movingLibrary)) beforeMove
      [.tick, .ping 0 (.ok 250 1), movingNotice 0, movingNotice 2]).map (fun _ => true) = some true
      by decide +kernel)
  have guarded := run.guarded_of_checked fun _ _ => registersUnpinged_sound
  exact ⟨t, guarded.unguarded,
    (owned_throughout_iff _ _ _ _ _ _ _ _ guarded.unguarded).mpr guarded⟩

end Measured

end MagicRouter
