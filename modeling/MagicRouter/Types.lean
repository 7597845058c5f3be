import Mathlib.Data.List.Basic
import MagicRouter.Library.Numeral

/-! Shared data of the router: keys, identifiers, upstream addresses and the
delegation record as it is laid out on chain (`types.rs`, `error.rs`). -/

namespace MagicRouter

/-- A 32-byte account address or validator identity. -/
structure Pubkey where
  bytes : List UInt8
  length_eq : bytes.length = 32
  deriving DecidableEq

namespace Pubkey

/-- `Pubkey::try_from` on a byte slice. -/
def tryFrom (bytes : List UInt8) : Option Pubkey :=
  if length_eq : bytes.length = 32 then some ⟨bytes, length_eq⟩ else none

/-- The key whose bytes are all `byte`; `Pubkey::default` repeats zero. -/
def repeating (byte : UInt8) : Pubkey :=
  ⟨List.replicate 32 byte, List.length_replicate⟩

def default : Pubkey := repeating 0

end Pubkey

/-- A 32-byte blockhash. -/
structure Hash where
  bytes : List UInt8
  length_eq : bytes.length = 32
  deriving DecidableEq

/-- A 64-byte transaction signature. -/
structure Signature where
  bytes : List UInt8
  length_eq : bytes.length = 64
  deriving DecidableEq

def Signature.repeating (byte : UInt8) : Signature :=
  ⟨List.replicate 64 byte, List.length_replicate⟩

/-- Subscription id assigned by an upstream. -/
abbrev SubscriptionId := Nat

/-- Id of an actor that generates subscription requests. -/
structure SubscriberId where
  val : Nat
  deriving DecidableEq

/-- Id of a request generated by an actor. -/
structure RequestId where
  val : Nat
  deriving DecidableEq

/-- A parsed URL; `rest` is everything after the scheme's colon. -/
structure Url where
  scheme : String
  rest : String
  deriving DecidableEq

def Url.asStr (url : Url) : String := url.scheme ++ ":" ++ url.rest

/-- Behaviour of the URL library: parsing, and the partial `set_scheme`. -/
structure UrlLibrary where
  parse : String → Option Url
  setScheme : Url → String → Option Url

/-- Metrics classification of an upstream client. -/
inductive Target where
  | er
  | chain
  deriving DecidableEq

/-- A JSON-RPC client, determined by the URL and target it was built with. -/
structure RpcClient where
  url : String
  target : Target
  deriving DecidableEq

/-- The upstream a transaction was forwarded to. -/
structure RemoteHandle where
  rpc : RpcClient
  ws : Url
  deriving DecidableEq

/-- Errors a request can end with. -/
inductive RouterError where
  | wsHandshake (message : String)
  | rpc (message : String)
  | io (message : String)
  | unknownErNode (identity : Pubkey)
  | unknownTransaction (signature : Signature)
  | subscriptionTimeout (method : String)
  | decodeError (message : String)
  | conflictingDelegations
  deriving DecidableEq

/-- The parsed delegation record of a delegated account. -/
structure ParsedDelegationRecord where
  authority : Pubkey
  owner : Pubkey
  delegationSlot : UInt64
  lamports : UInt64
  deriving DecidableEq

namespace ParsedDelegationRecord

def AUTHORITY_OFFSET : Nat := 8
def AUTHORITY_SIZE : Nat := 32
def OWNER_OFFSET : Nat := AUTHORITY_OFFSET + AUTHORITY_SIZE
def OWNER_SIZE : Nat := 32
def SLOT_OFFSET : Nat := OWNER_OFFSET + OWNER_SIZE
def SLOT_SIZE : Nat := 8
def LAMPORTS_OFFSET : Nat := SLOT_OFFSET + SLOT_SIZE
def LAMPORTS_SIZE : Nat := 8
def MIN_DATA_LEN : Nat := LAMPORTS_OFFSET + LAMPORTS_SIZE

/-- Slice indexing; the bounds are a proof, so an indexing panic cannot be written. -/
def slice (data : List UInt8) (start stop : Nat) (_ : start ≤ stop ∧ stop ≤ data.length) :
    List UInt8 :=
  (data.drop start).take (stop - start)

/-- `u64::from_le_bytes` after the conversion to `[u8; 8]`. -/
def fromLeBytes (bytes : List UInt8) : Option UInt64 :=
  if bytes.length = 8 then
    some (UInt64.ofNat (Library.ofLittleEndian bytes))
  else none

def fromBytes (data : List UInt8) : Option ParsedDelegationRecord :=
  if long : MIN_DATA_LEN ≤ data.length then do
    have bound : 88 ≤ data.length := long
    let authority ← Pubkey.tryFrom (slice data AUTHORITY_OFFSET OWNER_OFFSET
      ⟨by decide, Nat.le_trans (by decide) bound⟩)
    let owner ← Pubkey.tryFrom (slice data OWNER_OFFSET SLOT_OFFSET
      ⟨by decide, Nat.le_trans (by decide) bound⟩)
    let delegationSlot ← fromLeBytes (slice data SLOT_OFFSET LAMPORTS_OFFSET
      ⟨by decide, Nat.le_trans (by decide) bound⟩)
    let lamports ← fromLeBytes (slice data LAMPORTS_OFFSET (LAMPORTS_OFFSET + 8)
      ⟨by decide, bound⟩)
    return { authority, owner, delegationSlot, lamports }
  else none

end ParsedDelegationRecord

end MagicRouter
