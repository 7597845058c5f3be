import MagicRouter.Server.Http

/-! The statuses `getSignatureStatuses` answers with against the upstream that each
signature was forwarded to. -/

namespace MagicRouter.HttpServer

open Library

variable {Status : Type} {lib : TransactionLibrary} {server : HttpServer}
variable {texts : List String} {signatures : List Signature}

/-- The texts are those of the signatures. -/
def Denote (lib : TransactionLibrary) (texts : List String) (signatures : List Signature) : Prop :=
  List.Forall₂ (fun text signature => lib.parseSignature text = .ok signature) texts signatures

/-- An upstream that answers `getSignatureStatuses` position by position, at the given
slot, from the statuses it has. -/
def answering (status : RpcClient → Signature → Option Status) (slot : RpcClient → Nat)
    (client : RpcClient) (signatures : List Signature) :
    Except String (Response (List (Option Status))) :=
  .ok { slot := slot client, value := signatures.map (status client) }

/-- The status reported by the upstream a signature is recorded under. -/
def statusOf (server : HttpServer) (status : RpcClient → Signature → Option Status)
    (signature : Signature) : Option Status :=
  (server.transactions.get signature).bind fun handle => status handle.rpc signature

/-- The request is answered with each signature's own status at its position. -/
def AnswersEach (lib : TransactionLibrary) (server : HttpServer) (texts : List String)
    (signatures : List Signature) (status : RpcClient → Signature → Option Status)
    (slot : RpcClient → Nat) : Prop :=
  ∃ response, (signatureStatuses lib (answering status slot) server texts).1 = .ok response ∧
    response.value = signatures.map (server.statusOf status)

/-- All signatures are recorded, and under one client. -/
def Together (server : HttpServer) (signatures : List Signature) : Prop :=
  ∃ client, ∀ signature ∈ signatures,
    ∃ handle, server.transactions.get signature = some handle ∧ handle.rpc = client

theorem mapM_of_denote (denote : Denote lib texts signatures) :
    (texts.mapM fun text => (lib.parseSignature text).mapError decodeError) = .ok signatures := by
  induction denote with
  | nil => rfl
  | cons parsed _ ih =>
    rw [List.mapM_cons, parsed, ih]
    rfl

/-- The answer, by the record of the first signature. -/
theorem signatureStatuses_value (denote : Denote lib texts signatures)
    (status : RpcClient → Signature → Option Status) (slot : RpcClient → Nat) :
    (signatureStatuses lib (answering status slot) server texts).1 =
      match signatures.head?.bind server.transactions.get with
      | none => .ok { slot := 0, value := [] }
      | some handle =>
        .ok { slot := slot handle.rpc, value := signatures.map (status handle.rpc) } := by
  simp only [signatureStatuses, mapM_of_denote denote]
  cases signatures with
  | nil => rfl
  | cons first rest =>
    cases found : server.transactions.get first with
    | none => simp [found]
    | some handle => simp [found, answering, Except.mapError]

/-- Two clients that report the same of a signature whatever they hold are one. -/
private theorem client_eq_of_reports [Inhabited Status] {client : RpcClient} {signature : Signature}
    (same : ∀ status : RpcClient → Signature → Option Status,
      status client signature = server.statusOf status signature) :
    ∃ handle, server.transactions.get signature = some handle ∧ handle.rpc = client := by
  have only := same fun other _ => if other = client then some default else none
  cases found : server.transactions.get signature with
  | none => simp [statusOf, found] at only
  | some handle =>
    refine ⟨handle, rfl, ?_⟩
    by_contra different
    simp [statusOf, found, different] at only

/-- Whatever the upstreams hold, every position is answered from the signature's own
upstream exactly if the list is empty or all its signatures were forwarded to one. -/
theorem answersEach_iff [Inhabited Status] (lib : TransactionLibrary) (server : HttpServer)
    (denote : Denote lib texts signatures) :
    (∀ (status : RpcClient → Signature → Option Status) (slot : RpcClient → Nat),
      AnswersEach lib server texts signatures status slot) ↔ server.Together signatures := by
  constructor
  · intro answers
    cases signatures with
    | nil => exact ⟨{ url := "", target := .chain }, by simp⟩
    | cons first rest =>
      have own (status : RpcClient → Signature → Option Status) :
          ∃ handle, server.transactions.get first = some handle ∧
            (first :: rest).map (status handle.rpc) = (first :: rest).map (server.statusOf status) := by
        obtain ⟨response, answered, value⟩ := answers status fun _ => 0
        rw [signatureStatuses_value denote] at answered
        cases found : server.transactions.get first with
        | none =>
          -- the list of answers is empty where it should have the request's length
          simp only [List.head?_cons, Option.bind_some, found, Except.ok.injEq] at answered
          simp [← answered] at value
        | some handle =>
          refine ⟨handle, rfl, ?_⟩
          simp only [List.head?_cons, Option.bind_some, found, Except.ok.injEq] at answered
          simpa [← answered] using value
      obtain ⟨handle, recorded, _⟩ := own fun _ _ => none
      refine ⟨handle.rpc, ?_⟩
      intro signature member
      have reports (status : RpcClient → Signature → Option Status) :
          status handle.rpc signature = server.statusOf status signature := by
        obtain ⟨handle', recorded', same⟩ := own status
        cases recorded.symm.trans recorded'
        exact List.map_inj_left.mp same signature member
      exact client_eq_of_reports reports
  · rintro ⟨client, together⟩ status slot
    rw [AnswersEach, signatureStatuses_value denote]
    cases signatures with
    | nil => exact ⟨_, rfl, rfl⟩
    | cons first rest =>
      obtain ⟨handle, recorded, rfl⟩ := together first List.mem_cons_self
      rw [List.head?_cons, Option.bind_some, recorded]
      refine ⟨_, rfl, List.map_congr_left ?_⟩
      intro signature member
      obtain ⟨other, found, same⟩ := together signature member
      simp [statusOf, found, same]

/-- Texts "7" and "8" are two signatures. -/
def statusLibrary : TransactionLibrary where
  decodeBase58 _ := .error ""
  decodeBase64 _ := .error ""
  deserialize _ := .error ""
  isMaybeWritable _ _ := false
  parseSignature text :=
    if text = "7" then .ok (.repeating 7) else if text = "8" then .ok (.repeating 8)
    else .error "string decoded to wrong size for signature"

theorem denote_statusTexts : Denote statusLibrary ["7", "8"] [.repeating 7, .repeating 8] :=
  .cons rfl (.cons rfl .nil)

/-- Signature 7 was forwarded to the sample node, and signature 8 to `second`. -/
def forwardedPair (second : UpstreamRecord) : HttpServer :=
  let server := start .sample
  let node := RoutingTable.sampleNode
  (server.track (.repeating 7) { rpc := node.client, ws := node.wsUrl } none).track
    (.repeating 8) { rpc := second.client, ws := second.wsUrl } none

/-- A status the base chain has of signature 8 is not asked for. -/
theorem mixed_statuses_missed :
    ¬ ∀ (lib : TransactionLibrary) server texts signatures
      (status : RpcClient → Signature → Option Bool) slot, Denote lib texts signatures →
        AnswersEach lib server texts signatures status slot := by
  intro claimed
  have missed : ¬ AnswersEach statusLibrary (forwardedPair RoutingTable.sampleChain) ["7", "8"]
      [.repeating 7, .repeating 8]
      (fun client _ => some (decide (client = RoutingTable.sampleChain.client))) (fun _ => 0) := by
    rintro ⟨response, answered, value⟩
    rw [signatureStatuses_value denote_statusTexts] at answered
    cases answered
    revert value
    decide
  exact missed (claimed _ _ _ _ _ _ denote_statusTexts)

/-- With both signatures forwarded to the node, both positions are answered. -/
theorem shared_statuses_answered :
    AnswersEach statusLibrary (forwardedPair RoutingTable.sampleNode) ["7", "8"]
      [.repeating 7, .repeating 8] (fun _ signature => some (decide (signature = .repeating 7)))
      fun _ => 0 := by
  refine (answersEach_iff _ _ denote_statusTexts).mpr ⟨RoutingTable.sampleNode.client, ?_⟩ _ _
  intro signature member
  rcases List.mem_pair.mp member with rfl | rfl
  · exact ⟨_, rfl, rfl⟩
  · exact ⟨_, rfl, rfl⟩

end MagicRouter.HttpServer
