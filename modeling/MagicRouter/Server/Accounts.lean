import MagicRouter.Library.Partition
import MagicRouter.Server.Routing

/-! `getMultipleAccounts` against one lookup per key. The keys are split by authority,
put to their upstreams as separate lists and the replies scattered back, in whatever
order they come. -/

namespace MagicRouter.HttpServer

open Library

/-- The client for the keys of one authority. -/
def upstreamOf (routes : RoutingTable) : Option Pubkey → Option RpcClient
  | some identity => routes.ephemeralClient identity
  | none => some routes.baseChain.1.client

/-- The keys with the authority of `pk`, which its upstream is asked for together. -/
def sharing (authority : Pubkey → Option Pubkey) (pubkeys : List Pubkey) (pk : Pubkey) : List Pubkey :=
  pubkeys.filter fun other => authority other = authority pk

/-- Where `pubkeys[i]` stands among the keys it shares its upstream with. -/
def place (authority : Pubkey → Option Pubkey) (pubkeys : List Pubkey) (i : Nat) (pk : Pubkey) : Nat :=
  rank authority (authority pk) pubkeys i

section Spec

variable {Config UiAccount : Type} [Inhabited Config]
variable (authority : Pubkey → Option Pubkey)
variable (ask : RpcClient → List Pubkey → Except String (Response (List (Option UiAccount))))
variable (routes : RoutingTable) (pubkeys : List Pubkey)

/-- The upstream responsible for a key answers the request the key is part of. -/
def Replies (pk : Pubkey) (reply : Response (List (Option UiAccount))) : Prop :=
  ∃ client, upstreamOf routes (authority pk) = some client ∧
    ask client (sharing authority pubkeys pk) = .ok reply

/-- The response is made of what each key's own upstream answered for it. -/
structure PerKey (response : Response (List (Option UiAccount))) : Prop where
  length_eq : response.value.length = pubkeys.length
  entry : ∀ i pk, pubkeys[i]? = some pk → ∃ reply account,
    Replies authority ask routes pubkeys pk reply ∧
      (sharing authority pubkeys pk)[place authority pubkeys i pk]? = some pk ∧
      reply.value[place authority pubkeys i pk]? = some account ∧
      response.value[i]? = some account
  slot_ge : ∀ pk ∈ pubkeys, ∀ reply, Replies authority ask routes pubkeys pk reply →
    reply.slot ≤ response.slot
  slot_of : pubkeys ≠ [] → ∃ pk ∈ pubkeys, ∃ reply,
    Replies authority ask routes pubkeys pk reply ∧ response.slot = reply.slot
  slot_empty : pubkeys = [] → response.slot = 0

end Spec

variable {authority : Pubkey → Option Pubkey} {routes : RoutingTable} {pubkeys : List Pubkey}

theorem sortKeys_snoc (authority : Pubkey → Option Pubkey) (pubkeys : List Pubkey) (pk : Pubkey) :
    sortKeys authority (pubkeys ++ [pk]) =
      match authority pk with
      | some identity =>
        ((sortKeys authority pubkeys).1.push identity (pubkeys.length, pk),
          (sortKeys authority pubkeys).2)
      | none =>
        ((sortKeys authority pubkeys).1, (sortKeys authority pubkeys).2 ++ [(pubkeys.length, pk)]) := by
  rw [sortKeys, List.zipIdx_append, List.foldl_append]
  simp only [Nat.zero_add, List.zipIdx_singleton, List.foldl_cons, List.foldl_nil]
  cases delegated : authority pk <;> rfl

/-- Sorting puts every key under its authority, with its position. -/
theorem sortKeys_spec (authority : Pubkey → Option Pubkey) (pubkeys : List Pubkey) :
    (∀ identity, (sortKeys authority pubkeys).1.lookup identity =
      if positions authority (some identity) pubkeys = [] then none
      else some (positions authority (some identity) pubkeys)) ∧
      (sortKeys authority pubkeys).2 = positions authority none pubkeys := by
  induction pubkeys using List.reverseRecOn with
  | nil => exact ⟨fun _ => rfl, rfl⟩
  | append_singleton earlier pk ih =>
    obtain ⟨sorted, undelegated⟩ := ih
    rw [sortKeys_snoc]
    cases delegated : authority pk with
    | none =>
      refine ⟨?_, ?_⟩
      · intro identity
        simpa [positions_snoc, delegated] using sorted identity
      · simp [positions_snoc, delegated, undelegated]
    | some validator =>
      refine ⟨?_, by simp [positions_snoc, delegated, undelegated]⟩
      intro identity
      have before : ((sortKeys authority earlier).1.lookup validator).getD [] =
          positions authority (some validator) earlier := by
        rw [sorted validator]
        split
        · rename_i empty
          exact empty.symm
        · rfl
      by_cases same : identity = validator
      · simp [Store.lookup_push, positions_snoc, delegated, same, before]
      · simpa [Store.lookup_push, positions_snoc, delegated, same, Ne.symm same] using
          sorted identity

/-- A group is built for every authority that occurs. -/
theorem mem_groups_iff (identity : Pubkey) (keys : List (Nat × Pubkey)) :
    (identity, keys) ∈ (sortKeys authority pubkeys).1.entries.map (fun group => (group.1, group.2)) ↔
      (∃ pk ∈ pubkeys, authority pk = some identity) ∧
        keys = positions authority (some identity) pubkeys := by
  have listed : (identity, keys) ∈
      (sortKeys authority pubkeys).1.entries.map (fun group => (group.1, group.2)) ↔
      (sortKeys authority pubkeys).1.lookup identity = some keys := by
    rw [← Store.mem_entries_iff, List.mem_map]
    constructor
    · rintro ⟨⟨identity, keys⟩, member, same⟩
      cases same
      exact member
    · intro member
      exact ⟨_, member, rfl⟩
  rw [listed, (sortKeys_spec authority pubkeys).1 identity]
  by_cases absent : positions authority (some identity) pubkeys = []
  · have nobody := (positions_eq_nil_iff authority (some identity) pubkeys).mp absent
    simp only [if_pos absent, reduceCtorEq, false_iff, not_and]
    rintro ⟨pk, member, delegated⟩
    exact absurd delegated (nobody pk member)
  · rw [positions_eq_nil_iff] at absent
    have somebody : ∃ pk ∈ pubkeys, authority pk = some identity := by
      simpa using absent
    rw [← positions_eq_nil_iff] at absent
    simp [absent, somebody, eq_comm]

/-- The request made for the keys of one authority. -/
def requestOf (routes : RoutingTable) (authority : Pubkey → Option Pubkey) (pubkeys : List Pubkey)
    (target : Option Pubkey) : Option AccountsRequest :=
  (upstreamOf routes target).map fun client =>
    { client, pubkeys := positions authority target pubkeys }

section Gather

variable {UiAccount : Type}
variable {ask : RpcClient → List Pubkey → Except String (Response (List (Option UiAccount)))}

theorem gather_error_iff (requests : List AccountsRequest) (response : List (Option UiAccount))
    (slot : Nat) : (∃ error, gather ask requests response slot = .error error) ↔
      ∃ request ∈ requests, ∃ error, ask request.client request.pks = .error error := by
  induction requests generalizing response slot with
  | nil => simp [gather]
  | cons request rest ih =>
    cases answer : ask request.client request.pks with
    | error failure =>
      refine iff_of_true ⟨.router (.rpc failure), by simp [gather, answer]⟩ ?_
      exact ⟨request, List.mem_cons_self, failure, answer⟩
    | ok reply =>
      have on := ih (scatter response (request.pubkeys.zip reply.value)) (max slot reply.slot)
      simp only [gather, answer, on, List.mem_cons, exists_eq_or_imp, reduceCtorEq, exists_false,
        false_or]

/-- The positions and accounts one reply contributes. -/
def contributed (request : AccountsRequest) (reply : Response (List (Option UiAccount))) :
    List (Nat × Option UiAccount) :=
  (request.pubkeys.zip reply.value).map fun account => (account.1.1, account.2)

theorem gather_ok {reply : AccountsRequest → Response (List (Option UiAccount))}
    (requests : List AccountsRequest) (response : List (Option UiAccount)) (slot : Nat)
    (answered : ∀ request ∈ requests, ask request.client request.pks = .ok (reply request)) :
    gather ask requests response slot = .ok {
      slot := (requests.map fun request => (reply request).slot).foldl max slot
      value := writeAll response
        (requests.flatMap fun request => contributed request (reply request)) } := by
  induction requests generalizing response slot with
  | nil => rfl
  | cons request rest ih =>
    have first := answered request List.mem_cons_self
    have later := fun request member => answered request (List.mem_cons_of_mem _ member)
    simp only [gather, first, ih _ _ later, List.map_cons, List.foldl_cons, List.flatMap_cons]
    simp [scatter, writeAll, contributed, List.foldl_append, List.foldl_map]

end Gather

/-- The requests for the delegated keys, or the first authority that is unknown. -/
theorem ephemeralRequests_cases (routes : RoutingTable)
    (groups : List (Pubkey × List (Nat × Pubkey))) :
    ((∃ error, groups.mapM (ephemeralRequest routes) = .error error) ∧
      ∃ group ∈ groups, routes.ephemeralClient group.1 = none) ∨
    ∃ requests, groups.mapM (ephemeralRequest routes) = .ok requests ∧
      (∀ group ∈ groups, (routes.ephemeralClient group.1).isSome) ∧
      ∀ request, request ∈ requests ↔ ∃ group ∈ groups,
        routes.ephemeralClient group.1 = some request.client ∧ request.pubkeys = group.2 := by
  induction groups with
  | nil => exact .inr ⟨[], rfl, by simp, by simp⟩
  | cons group rest ih =>
    cases known : routes.ephemeralClient group.1 with
    | none =>
      refine .inl ⟨⟨.unknownErNode group.1, ?_⟩, group, List.mem_cons_self, known⟩
      simp [List.mapM_cons, ephemeralRequest, known, bind, Except.bind]
    | some client =>
      have first : ephemeralRequest routes group = .ok { client, pubkeys := group.2 } := by
        simp [ephemeralRequest, known]
      rcases ih with ⟨⟨error, failed⟩, other, member, unknown⟩ | ⟨requests, built, clients, members⟩
      · refine .inl ⟨⟨error, ?_⟩, other, List.mem_cons_of_mem _ member, unknown⟩
        simp [List.mapM_cons, first, failed, bind, Except.bind]
      · refine .inr ⟨{ client, pubkeys := group.2 } :: requests, ?_, ?_, ?_⟩
        · simp [List.mapM_cons, first, built, bind, Except.bind, pure, Except.pure]
        · simpa [known] using clients
        · intro request
          simp only [List.mem_cons, members, exists_eq_or_imp, known, Option.some.injEq]
          apply or_congr_left
          constructor
          · rintro rfl
            exact ⟨rfl, rfl⟩
          · rintro ⟨rfl, same⟩
            rw [← same]

/-- The base chain is asked exactly if a key is not delegated. -/
theorem mem_chainRequest_iff (routes : RoutingTable) (request : AccountsRequest) :
    request ∈ (if positions authority none pubkeys = [] then [] else
      [{ client := routes.baseChain.1.client, pubkeys := positions authority none pubkeys }]) ↔
      ∃ pk ∈ pubkeys, authority pk = none ∧
        requestOf routes authority pubkeys none = some request := by
  have vacant := positions_eq_nil_iff authority none pubkeys
  constructor
  · intro chain
    split at chain
    · cases chain
    · rename_i occurs
      obtain ⟨pk, listed, own⟩ : ∃ pk ∈ pubkeys, authority pk = none := by
        simpa using mt vacant.mpr occurs
      cases List.mem_singleton.mp chain
      exact ⟨pk, listed, own, rfl⟩
  · rintro ⟨pk, listed, own, made⟩
    have occurs : positions authority none pubkeys ≠ [] := by
      intro empty
      exact vacant.mp empty pk listed own
    cases made
    simp [occurs]

/-- A node is asked exactly if a key is delegated to it. -/
theorem mem_groupRequests_iff (routes : RoutingTable) (request : AccountsRequest)
    {groups : List (Pubkey × List (Nat × Pubkey))}
    (group_iff : ∀ identity keys, (identity, keys) ∈ groups ↔
      (∃ pk ∈ pubkeys, authority pk = some identity) ∧
        keys = positions authority (some identity) pubkeys) :
    (∃ group ∈ groups, routes.ephemeralClient group.1 = some request.client ∧
        request.pubkeys = group.2) ↔
      ∃ pk ∈ pubkeys, ∃ identity, authority pk = some identity ∧
        requestOf routes authority pubkeys (some identity) = some request := by
  constructor
  · rintro ⟨⟨identity, keys⟩, member, known, same⟩
    obtain ⟨⟨pk, listed, delegated⟩, rfl⟩ := (group_iff identity keys).mp member
    refine ⟨pk, listed, identity, delegated, ?_⟩
    simp only [requestOf, upstreamOf, known, Option.map_some]
    exact congrArg (fun keys => some (AccountsRequest.mk request.client keys)) same.symm
  · rintro ⟨pk, listed, identity, delegated, made⟩
    obtain ⟨client, upstream, rfl⟩ := Option.map_eq_some_iff.mp made
    exact ⟨(identity, _), (group_iff identity _).mpr ⟨⟨pk, listed, delegated⟩, rfl⟩, upstream, rfl⟩

section Requests

variable {Config UiAccount : Type} [Inhabited Config]
variable {iteration : List (Pubkey × List (Nat × Pubkey)) → List (Pubkey × List (Nat × Pubkey))}

/-- Either some authority is unknown and nothing is asked, or one request is made for
each authority of the keys. -/
theorem multipleAccounts_cases (authority : Pubkey → Option Pubkey)
    (ask : RpcClient → List Pubkey → Config → Except String (Response (List (Option UiAccount))))
    (completion : List AccountsRequest → List AccountsRequest) (server : HttpServer)
    (pubkeys : List Pubkey) (params : Option Config)
    (walked : ∀ groups, (iteration groups).Perm groups) :
    ((∃ error, (multipleAccounts authority ask iteration completion server pubkeys params).1 =
        .error error) ∧
      ∃ pk ∈ pubkeys, upstreamOf server.routes (authority pk) = none) ∨
    (∀ pk ∈ pubkeys, (upstreamOf server.routes (authority pk)).isSome) ∧ ∃ requests,
      (∀ request, request ∈ requests ↔
        ∃ pk ∈ pubkeys, requestOf server.routes authority pubkeys (authority pk) = some request) ∧
      (multipleAccounts authority ask iteration completion server pubkeys params).1 =
        gather (fun client pks => ask client pks (params.getD default)) (completion requests)
          (List.replicate pubkeys.length none) 0 := by
  have group_iff (identity : Pubkey) (keys : List (Nat × Pubkey)) :
      (identity, keys) ∈ iteration ((sortKeys authority pubkeys).1.entries.map
          fun group => (group.1, group.2)) ↔
        (∃ pk ∈ pubkeys, authority pk = some identity) ∧
          keys = positions authority (some identity) pubkeys := by
    rw [(walked _).mem_iff, mem_groups_iff]
  rcases ephemeralRequests_cases server.routes (iteration
      ((sortKeys authority pubkeys).1.entries.map fun group => (group.1, group.2))) with
    ⟨⟨error, failed⟩, ⟨identity, keys⟩, member, unknown⟩ | ⟨requests, built, clients, members⟩
  · left
    obtain ⟨⟨pk, listed, delegated⟩, _⟩ := (group_iff identity keys).mp member
    refine ⟨⟨.router error, ?_⟩, pk, listed, ?_⟩
    · simp [multipleAccounts, failed]
    · simpa [upstreamOf, delegated] using unknown
  · right
    have undelegated := (sortKeys_spec authority pubkeys).2
    refine ⟨?_, requests ++ (if positions authority none pubkeys = [] then [] else
      [{ client := server.routes.baseChain.1.client
         pubkeys := positions authority none pubkeys }]), ?_, ?_⟩
    · intro pk listed
      cases delegated : authority pk with
      | none => rfl
      | some identity => exact clients _ ((group_iff identity _).mpr ⟨⟨pk, listed, delegated⟩, rfl⟩)
    · intro request
      rw [List.mem_append, members, mem_groupRequests_iff _ _ group_iff, mem_chainRequest_iff]
      constructor
      · rintro (⟨pk, listed, identity, delegated, made⟩ | ⟨pk, listed, own, made⟩)
        · exact ⟨pk, listed, delegated ▸ made⟩
        · exact ⟨pk, listed, own ▸ made⟩
      · rintro ⟨pk, listed, made⟩
        cases delegated : authority pk with
        | none => exact .inr ⟨pk, listed, delegated, delegated ▸ made⟩
        | some identity => exact .inl ⟨pk, listed, identity, delegated, delegated ▸ made⟩
    · simp only [multipleAccounts, built, undelegated, List.isEmpty_iff]
      split
      · simp
      · rfl

/-- What the request of a key asks for. -/
theorem pks_of_requestOf {pk : Pubkey} {request : AccountsRequest}
    (made : requestOf routes authority pubkeys (authority pk) = some request) :
    upstreamOf routes (authority pk) = some request.client ∧
      request.pubkeys = positions authority (authority pk) pubkeys ∧
      request.pks = sharing authority pubkeys pk := by
  obtain ⟨client, upstream, rfl⟩ := Option.map_eq_some_iff.mp made
  exact ⟨upstream, rfl, positions_items authority (authority pk) pubkeys⟩

/-- The reply to a request that is answered. -/
def replyTo (ask : RpcClient → List Pubkey → Except String (Response (List (Option UiAccount))))
    (request : AccountsRequest) : Response (List (Option UiAccount)) :=
  match ask request.client request.pks with
  | .ok reply => reply
  | .error _ => { slot := 0, value := [] }

/-- What a key's own upstream answered for it. -/
def answerAt (ask : RpcClient → List Pubkey → Except String (Response (List (Option UiAccount))))
    (routes : RoutingTable) (authority : Pubkey → Option Pubkey) (pubkeys : List Pubkey) (i : Nat) :
    Option UiAccount :=
  (do
    let pk ← pubkeys[i]?
    let request ← requestOf routes authority pubkeys (authority pk)
    (replyTo ask request).value[place authority pubkeys i pk]?).join

/-- The entry of a reply at a key's place is written to the key's position, and
nothing else is. -/
theorem mem_contributed_iff {pk : Pubkey} {request : AccountsRequest}
    (made : requestOf routes authority pubkeys (authority pk) = some request)
    (reply : Response (List (Option UiAccount))) (i : Nat) (account : Option UiAccount) :
    (i, account) ∈ contributed request reply ↔ ∃ owner, pubkeys[i]? = some owner ∧
      authority owner = authority pk ∧
      reply.value[place authority pubkeys i owner]? = some account := by
  obtain ⟨_, keys, _⟩ := pks_of_requestOf made
  simp only [contributed, List.mem_map, Prod.mk.injEq, keys]
  constructor
  · rintro ⟨⟨⟨index, owner⟩, value⟩, member, rfl, rfl⟩
    obtain ⟨j, paired⟩ := List.mem_iff_getElem?.mp member
    obtain ⟨listed, answered⟩ := List.getElem?_zip_eq_some.mp paired
    obtain ⟨found, shared, rfl⟩ := (positions_getElem?_iff authority _ pubkeys j index owner).mp listed
    exact ⟨owner, found, shared, by rwa [place, shared]⟩
  · rintro ⟨owner, found, shared, answered⟩
    refine ⟨((i, owner), account), ?_, rfl, rfl⟩
    refine List.mem_iff_getElem?.mpr ⟨place authority pubkeys i owner, ?_⟩
    refine List.getElem?_zip_eq_some.mpr ⟨?_, answered⟩
    exact (positions_getElem?_iff authority _ pubkeys _ i owner).mpr ⟨found, shared, by rw [place, shared]⟩

section Gathered

variable {answers : RpcClient → List Pubkey → Except String (Response (List (Option UiAccount)))}
variable {pk : Pubkey} {request : AccountsRequest} {reply : Response (List (Option UiAccount))}

theorem replies_iff (made : requestOf routes authority pubkeys (authority pk) = some request) :
    Replies authority answers routes pubkeys pk reply ↔
      answers request.client request.pks = .ok reply := by
  obtain ⟨upstream, _, pks⟩ := pks_of_requestOf made
  rw [pks]
  constructor
  · rintro ⟨client, upstream', answer⟩
    cases upstream.symm.trans upstream'
    exact answer
  · intro answer
    exact ⟨request.client, upstream, answer⟩

/-- The reply of a key's upstream is the reply to its request. -/
theorem Replies.of_request (replies : Replies authority answers routes pubkeys pk reply) :
    ∃ request, requestOf routes authority pubkeys (authority pk) = some request ∧
      reply = replyTo answers request := by
  obtain ⟨client, upstream, answer⟩ := replies
  have made : requestOf routes authority pubkeys (authority pk) =
      some { client, pubkeys := positions authority (authority pk) pubkeys } := by
    simp [requestOf, upstream]
  refine ⟨_, made, ?_⟩
  have answered := (replies_iff made).mp ⟨client, upstream, answer⟩
  rw [replyTo, answered]

/-- The largest slot of the replies. -/
theorem slots_max (requests : List AccountsRequest) (slot : AccountsRequest → Nat) :
    (∀ request ∈ requests, slot request ≤ (requests.map slot).foldl max 0) ∧
      (requests ≠ [] → ∃ request ∈ requests, (requests.map slot).foldl max 0 = slot request) := by
  obtain ⟨attained, above⟩ := List.max?_eq_some_iff.mp
    (show (0 :: requests.map slot).max? = some ((requests.map slot).foldl max 0) from rfl)
  have bound : ∀ request ∈ requests, slot request ≤ (requests.map slot).foldl max 0 :=
    fun request member => above _ (List.mem_cons_of_mem _ (List.mem_map_of_mem member))
  refine ⟨bound, ?_⟩
  intro nonempty
  rcases List.mem_cons.mp attained with zero | listed
  · obtain ⟨request, member⟩ := List.exists_mem_of_ne_nil _ nonempty
    exact ⟨request, member, by have := bound request member; omega⟩
  · obtain ⟨request, member, same⟩ := List.mem_map.mp listed
    exact ⟨request, member, same.symm⟩

/-- The gathered row holds at each position what the key's own upstream answered. -/
theorem gathered_getElem? {requests : List AccountsRequest}
    (members : ∀ request, request ∈ requests ↔
      ∃ pk ∈ pubkeys, requestOf routes authority pubkeys (authority pk) = some request)
    {i : Nat} {account : Option UiAccount} (found : pubkeys[i]? = some pk)
    (made : requestOf routes authority pubkeys (authority pk) = some request)
    (present : (replyTo answers request).value[place authority pubkeys i pk]? = some account) :
    (writeAll (List.replicate pubkeys.length none)
      (requests.flatMap fun request => contributed request (replyTo answers request)))[i]? =
      some account := by
  have answer : answerAt answers routes authority pubkeys i = account := by
    simp [answerAt, found, made, present]
  rw [← answer]
  apply writeAll_getElem?
  · intro write member
    obtain ⟨other, asked, wrote⟩ := List.mem_flatMap.mp member
    obtain ⟨key, _, made⟩ := (members other).mp asked
    obtain ⟨owner, here, shared, value⟩ := (mem_contributed_iff made _ _ _).mp wrote
    simp [answerAt, here, shared, made, value]
  · obtain ⟨bound, _⟩ := List.getElem?_eq_some_iff.mp found
    simpa using bound
  · left
    refine ⟨(i, account), List.mem_flatMap.mpr ⟨request, ?_, ?_⟩, rfl⟩
    · exact (members request).mpr ⟨pk, List.mem_of_getElem? found, made⟩
    · exact (mem_contributed_iff made _ _ _).mpr ⟨pk, found, rfl, present⟩

/-- A response gathered from all replies answers every key at its position. -/
theorem perKey_gathered {requests : List AccountsRequest}
    (members : ∀ request, request ∈ requests ↔
      ∃ pk ∈ pubkeys, requestOf routes authority pubkeys (authority pk) = some request)
    (answered : ∀ pk ∈ pubkeys, ∃ reply, Replies authority answers routes pubkeys pk reply ∧
      reply.value.length = (sharing authority pubkeys pk).length) :
    PerKey authority answers routes pubkeys {
      slot := (requests.map fun request => (replyTo answers request).slot).foldl max 0
      value := writeAll (List.replicate pubkeys.length none)
        (requests.flatMap fun request => contributed request (replyTo answers request)) } where
  length_eq := by rw [length_writeAll, List.length_replicate]
  entry := by
    intro i pk found
    obtain ⟨reply, replies, long⟩ := answered pk (List.mem_of_getElem? found)
    obtain ⟨request, made, rfl⟩ := replies.of_request
    have shared : (sharing authority pubkeys pk)[place authority pubkeys i pk]? = some pk := by
      have listed := (positions_getElem?_iff authority (authority pk) pubkeys _ i pk).mpr
        ⟨found, rfl, rfl⟩
      rw [sharing, ← positions_items, List.getElem?_map, place, listed]
      rfl
    obtain ⟨bound, _⟩ := List.getElem?_eq_some_iff.mp shared
    rw [← long] at bound
    have present := List.getElem?_eq_getElem bound
    exact ⟨_, _, replies, shared, present, gathered_getElem? members found made present⟩
  slot_ge := by
    intro pk listed reply replies
    obtain ⟨request, made, rfl⟩ := replies.of_request
    exact (slots_max requests fun request => (replyTo answers request).slot).1 request
      ((members request).mpr ⟨pk, listed, made⟩)
  slot_of := by
    intro nonempty
    obtain ⟨first, listed⟩ := List.exists_mem_of_ne_nil _ nonempty
    obtain ⟨_, replies, _⟩ := answered first listed
    obtain ⟨request, made, _⟩ := replies.of_request
    have some : requests ≠ [] := List.ne_nil_of_mem ((members request).mpr ⟨first, listed, made⟩)
    obtain ⟨top, member, same⟩ :=
      (slots_max requests fun request => (replyTo answers request).slot).2 some
    obtain ⟨pk, listed, made⟩ := (members top).mp member
    obtain ⟨reply, replies, _⟩ := answered pk listed
    obtain ⟨request, made', rfl⟩ := replies.of_request
    cases made.symm.trans made'
    exact ⟨pk, listed, _, replies, same⟩
  slot_empty := by
    rintro rfl
    have none : requests = [] := by
      apply List.eq_nil_iff_forall_not_mem.mpr
      intro request member
      obtain ⟨_, listed, _⟩ := (members request).mp member
      cases listed
    rw [none]
    rfl

end Gathered

/-- For every assignment of authorities, every order of the groups and every order in
which their requests complete, the response is that of one lookup per key; the
request fails exactly if an authority is unknown or an upstream request fails. -/
theorem multipleAccounts_per_key (authority : Pubkey → Option Pubkey)
    (ask : RpcClient → List Pubkey → Config → Except String (Response (List (Option UiAccount))))
    (iteration : List (Pubkey × List (Nat × Pubkey)) → List (Pubkey × List (Nat × Pubkey)))
    (completion : List AccountsRequest → List AccountsRequest) (server : HttpServer)
    (pubkeys : List Pubkey) (params : Option Config)
    (walked : ∀ groups, (iteration groups).Perm groups)
    (completed : ∀ requests, (completion requests).Perm requests) :
    ((∀ pk ∈ pubkeys, ∃ reply,
        Replies authority (fun client pks => ask client pks (params.getD default)) server.routes
          pubkeys pk reply ∧ reply.value.length = (sharing authority pubkeys pk).length) →
      ∃ response,
        (multipleAccounts authority ask iteration completion server pubkeys params).1 = .ok response ∧
        PerKey authority (fun client pks => ask client pks (params.getD default)) server.routes
          pubkeys response) ∧
    ((∃ error,
        (multipleAccounts authority ask iteration completion server pubkeys params).1 = .error error) ↔
      (∃ pk ∈ pubkeys, upstreamOf server.routes (authority pk) = none) ∨
      ∃ pk ∈ pubkeys, ∃ client error, upstreamOf server.routes (authority pk) = some client ∧
        ask client (sharing authority pubkeys pk) (params.getD default) = .error error) := by
  rcases multipleAccounts_cases authority ask completion server pubkeys params walked with
    ⟨refused, pk, listed, unknown⟩ | ⟨known, requests, members, gathers⟩
  · refine ⟨?_, iff_of_true refused (.inl ⟨pk, listed, unknown⟩)⟩
    intro answered
    obtain ⟨_, ⟨client, upstream, _⟩, _⟩ := answered pk listed
    rw [unknown] at upstream
    cases upstream
  · have members : ∀ request, request ∈ completion requests ↔ ∃ pk ∈ pubkeys,
        requestOf server.routes authority pubkeys (authority pk) = some request := by
      intro request
      rw [(completed requests).mem_iff, members]
    rw [gathers, gather_error_iff]
    constructor
    · intro answered
      refine ⟨_, gather_ok (completion requests) _ _ ?_, perKey_gathered members answered⟩
      intro request member
      obtain ⟨pk, listed, made⟩ := (members request).mp member
      obtain ⟨reply, replies, _⟩ := answered pk listed
      have answer := (replies_iff made).mp replies
      rw [replyTo, answer]
    · constructor
      · rintro ⟨request, member, error, failed⟩
        obtain ⟨pk, listed, made⟩ := (members request).mp member
        obtain ⟨upstream, _, pks⟩ := pks_of_requestOf made
        exact .inr ⟨pk, listed, request.client, error, upstream, pks ▸ failed⟩
      · rintro (⟨pk, listed, unknown⟩ | ⟨pk, listed, client, error, upstream, failed⟩)
        · have present := known pk listed
          rw [unknown] at present
          cases present
        · have made : requestOf server.routes authority pubkeys (authority pk) =
              some { client, pubkeys := positions authority (authority pk) pubkeys } := by
            simp [requestOf, upstream]
          obtain ⟨_, _, pks⟩ := pks_of_requestOf made
          exact ⟨_, (members _).mpr ⟨pk, listed, made⟩, error, by rw [pks]; exact failed⟩

end Requests

/-- Upstreams that answer every key with their own URL, the node at the later slot. -/
def signedReply (client : RpcClient) (pks : List Pubkey) (_ : Unit) :
    Except String (Response (List (Option String))) :=
  .ok {
    slot := if client = RoutingTable.sampleNode.client then 7 else 5
    value := pks.map fun _ => some client.url }

/-- A delegated key asked for twice around an undelegated one. -/
theorem accounts_per_key_reversed :
    ∃ response, (multipleAccounts payerDelegated signedReply List.reverse List.reverse
        (start .sample) [.repeating 1, .repeating 2, .repeating 1] none).1 = .ok response ∧
      PerKey payerDelegated (fun client pks => signedReply client pks ()) .sample
        [.repeating 1, .repeating 2, .repeating 1] response := by
  refine (multipleAccounts_per_key payerDelegated signedReply List.reverse List.reverse
    (start .sample) [.repeating 1, .repeating 2, .repeating 1] none List.reverse_perm
    List.reverse_perm).1 ?_
  intro pk _
  by_cases delegated : pk = .repeating 1
  · refine ⟨_, ⟨RoutingTable.sampleNode.client, ?_, rfl⟩, by simp⟩
    simp [upstreamOf, payerDelegated, delegated, RoutingTable.ephemeralClient, start,
      RoutingTable.sample_node]
  · refine ⟨_, ⟨RoutingTable.sampleChain.client, ?_, rfl⟩, by simp⟩
    simp only [upstreamOf, payerDelegated, delegated, if_false]
    rfl

end MagicRouter.HttpServer
