import MagicRouter.Library.Base58
import MagicRouter.Types

/-! The two formats of `types.rs`: keys as base58 text in JSON, and the delegation
record as it is laid out in account data. -/

namespace MagicRouter

open Library

/-- The base58 library. Both functions write to a buffer of the given capacity and give
back what they have written, or the error displayed. -/
structure Bs58 where
  /-- `bs58::encode(bytes).onto(buffer)` -/
  encodeOnto : (bytes : List UInt8) → (capacity : Nat) → Except String (List Char)
  /-- `bs58::decode(text).onto(buffer)` -/
  decodeOnto : (text : String) → (capacity : Nat) → Except String (List UInt8)

/-- The library implements base58 and fails where the buffer is too small. -/
structure Bs58.Standard (lib : Bs58) : Prop where
  encodes : ∀ bytes capacity, (Base58.encode bytes).length ≤ capacity →
    lib.encodeOnto bytes capacity = .ok (Base58.encode bytes)
  overflows : ∀ bytes capacity, capacity < (Base58.encode bytes).length →
    ∃ error, lib.encodeOnto bytes capacity = .error error
  decodes : ∀ text capacity bytes, Base58.decode text.toList = some bytes →
    bytes.length ≤ capacity → lib.decodeOnto text capacity = .ok bytes
  exceeds : ∀ text capacity bytes, Base58.decode text.toList = some bytes →
    capacity < bytes.length → ∃ error, lib.decodeOnto text capacity = .error error
  refuses : ∀ text capacity, Base58.decode text.toList = none →
    ∃ error, lib.decodeOnto text capacity = .error error

namespace SerdePubkey

/-- `serialize` into a buffer of 44 characters; `none` is the panic of `expect`. -/
def serialize (lib : Bs58) (key : Pubkey) : Option String :=
  match lib.encodeOnto key.bytes 44 with
  | .ok written => some (String.ofList written)
  | .error _ => none

/-- `visit_str` of `deserialize`, the error being its message. -/
def deserialize (lib : Bs58) (value : String) : Except String Pubkey :=
  match lib.decodeOnto value 32 with
  | .error error => .error error
  | .ok written =>
    if length_eq : written.length = 32 then .ok ⟨written, length_eq⟩
    else .error "expected 32 bytes"

variable {lib : Bs58}

/-- 256 ^ 32 is less than 58 ^ 44. -/
theorem length_encode_key_le (key : Pubkey) : (Base58.encode key.bytes).length ≤ 44 := by
  apply Base58.length_encode_le
  rw [key.length_eq]
  decide

theorem serialize_eq (standard : lib.Standard) (key : Pubkey) :
    serialize lib key = some (String.ofList (Base58.encode key.bytes)) := by
  rw [serialize, standard.encodes key.bytes 44 (length_encode_key_le key)]

theorem deserialize_eq_ok_iff (standard : lib.Standard) {text : String} {key : Pubkey} :
    deserialize lib text = .ok key ↔ Base58.decode text.toList = some key.bytes := by
  unfold deserialize
  constructor
  · intro accepted
    cases decoded : Base58.decode text.toList with
    | none =>
      obtain ⟨error, refused⟩ := standard.refuses text 32 decoded
      simp [refused] at accepted
    | some bytes =>
      by_cases fits : bytes.length ≤ 32
      · rw [standard.decodes text 32 bytes decoded fits] at accepted
        dsimp only at accepted
        split at accepted
        · cases accepted
          rfl
        · cases accepted
      · obtain ⟨error, refused⟩ := standard.exceeds text 32 bytes decoded (Nat.lt_of_not_le fits)
        simp [refused] at accepted
  · intro decoded
    rw [standard.decodes text 32 key.bytes decoded (Nat.le_of_eq key.length_eq)]
    dsimp only
    rw [dif_pos key.length_eq]

/-- Every key is written in at most 44 characters and read back; the texts read are
those that decode to 32 bytes, and each is the text its key is written as. -/
theorem pubkey_text_round_trips (lib : Bs58) (standard : lib.Standard) :
    (∀ key, ∃ text, serialize lib key = some text ∧ text.length ≤ 44 ∧
      deserialize lib text = .ok key) ∧
    (∀ text, (∃ key, deserialize lib text = .ok key) ↔
      ∃ bytes, Base58.decode text.toList = some bytes ∧ bytes.length = 32) ∧
    (∀ text key, deserialize lib text = .ok key → serialize lib key = some text) := by
  refine ⟨?_, ?_, ?_⟩
  · intro key
    refine ⟨_, serialize_eq standard key, ?_, ?_⟩
    · rw [String.length_ofList]
      exact length_encode_key_le key
    · rw [deserialize_eq_ok_iff standard, String.toList_ofList]
      exact Base58.decode_encode key.bytes
  · intro text
    constructor
    · intro accepted
      obtain ⟨key, accepted⟩ := accepted
      exact ⟨key.bytes, (deserialize_eq_ok_iff standard).mp accepted, key.length_eq⟩
    · intro decodes
      obtain ⟨bytes, decoded, length_eq⟩ := decodes
      exact ⟨⟨bytes, length_eq⟩, (deserialize_eq_ok_iff standard).mpr decoded⟩
  · intro text key accepted
    have written := Base58.encode_of_decode ((deserialize_eq_ok_iff standard).mp accepted)
    rw [serialize_eq standard, written, String.ofList_toList]

/-- Base58 itself, written to buffers. -/
def bitcoin : Bs58 where
  encodeOnto bytes capacity :=
    if (Base58.encode bytes).length ≤ capacity then .ok (Base58.encode bytes)
    else .error "buffer provided to encode base58 string into was too small"
  decodeOnto text capacity :=
    match Base58.decode text.toList with
    | none => .error "provided string contained invalid character"
    | some bytes =>
      if bytes.length ≤ capacity then .ok bytes
      else .error "buffer provided to decode base58 encoded string into was too small"

theorem bitcoin_standard : bitcoin.Standard where
  encodes bytes capacity fits := if_pos fits
  overflows bytes capacity small := ⟨_, if_neg (Nat.not_le_of_lt small)⟩
  decodes text capacity bytes decoded fits := by simp [bitcoin, decoded, fits]
  exceeds text capacity bytes decoded small := by
    simp [bitcoin, decoded, Nat.not_le_of_lt small]
  refuses text capacity invalid := by simp [bitcoin, invalid]

/-- The key of the bytes 0 to 31. -/
def countingKey : Pubkey where
  bytes := (List.range 32).map UInt8.ofNat
  length_eq := by decide

/-- The key is read back from the text it is written as. -/
theorem counting_key_round_trips :
    bitcoin.Standard ∧ serialize bitcoin countingKey = some "1thX6LZfHDZZKUs92febYZhYRcXddmzfzF2NvTkPNE" ∧
      deserialize bitcoin "1thX6LZfHDZZKUs92febYZhYRcXddmzfzF2NvTkPNE" = .ok countingKey := by
  obtain ⟨written, _, _⟩ := pubkey_text_round_trips bitcoin bitcoin_standard
  obtain ⟨text, same, _, back⟩ := written countingKey
  have text_eq : serialize bitcoin countingKey = some "1thX6LZfHDZZKUs92febYZhYRcXddmzfzF2NvTkPNE" := by
    decide +kernel
  cases same.symm.trans text_eq
  exact ⟨bitcoin_standard, same, back⟩

end SerdePubkey

namespace ParsedDelegationRecord

/-- The bytes of a record in account data, after the discriminator. -/
def layout (record : ParsedDelegationRecord) : List UInt8 :=
  record.authority.bytes ++ record.owner.bytes ++ littleEndian 8 record.delegationSlot.toNat ++
    littleEndian 8 record.lamports.toNat

/-- The slices of `from_bytes` lie within the data, and each can be converted. -/
def Readable (data : List UInt8) : Prop :=
  (∃ within, (Pubkey.tryFrom (slice data AUTHORITY_OFFSET OWNER_OFFSET within)).isSome) ∧
  (∃ within, (Pubkey.tryFrom (slice data OWNER_OFFSET SLOT_OFFSET within)).isSome) ∧
  (∃ within, (fromLeBytes (slice data SLOT_OFFSET LAMPORTS_OFFSET within)).isSome) ∧
  (∃ within, (fromLeBytes (slice data LAMPORTS_OFFSET (LAMPORTS_OFFSET + 8) within)).isSome)

variable {data : List UInt8} {record : ParsedDelegationRecord}

/-- A slice that is one of the parts the data is put together from. -/
theorem slice_eq {pre middle post : List UInt8} {start stop : Nat}
    (parts : data = pre ++ (middle ++ post)) (begins : pre.length = start)
    (ends : start + middle.length = stop) (within : start ≤ stop ∧ stop ≤ data.length) :
    slice data start stop within = middle := by
  subst parts begins ends
  simp [slice]

theorem length_slice {start stop : Nat} (within : start ≤ stop ∧ stop ≤ data.length) :
    (slice data start stop within).length = stop - start := by
  rw [slice, List.length_take, List.length_drop]
  omega

theorem exists_append (data : List UInt8) (count : Nat) (long : count ≤ data.length) :
    ∃ pre post, data = pre ++ post ∧ pre.length = count :=
  ⟨data.take count, data.drop count, (List.take_append_drop count data).symm,
    List.length_take_of_le long⟩

theorem readable_of_long (long : 88 ≤ data.length) : Readable data := by
  have key {start stop : Nat} (within : start ≤ stop ∧ stop ≤ data.length)
      (wide : stop - start = 32) : (Pubkey.tryFrom (slice data start stop within)).isSome := by
    rw [Pubkey.tryFrom, dif_pos ((length_slice within).trans wide)]
    rfl
  have word {start stop : Nat} (within : start ≤ stop ∧ stop ≤ data.length)
      (wide : stop - start = 8) : (fromLeBytes (slice data start stop within)).isSome := by
    rw [fromLeBytes, if_pos ((length_slice within).trans wide)]
    rfl
  exact ⟨⟨⟨by decide, Nat.le_trans (by decide) long⟩, key _ rfl⟩,
    ⟨⟨by decide, Nat.le_trans (by decide) long⟩, key _ rfl⟩,
    ⟨⟨by decide, Nat.le_trans (by decide) long⟩, word _ rfl⟩, ⟨⟨by decide, long⟩, word _ rfl⟩⟩

theorem isSome_of_readable (long : 88 ≤ data.length) (readable : Readable data) :
    (fromBytes data).isSome := by
  obtain ⟨⟨_, first⟩, ⟨_, second⟩, ⟨_, third⟩, ⟨_, fourth⟩⟩ := readable
  obtain ⟨authority, first⟩ := Option.isSome_iff_exists.mp first
  obtain ⟨owner, second⟩ := Option.isSome_iff_exists.mp second
  obtain ⟨slot, third⟩ := Option.isSome_iff_exists.mp third
  obtain ⟨lamports, fourth⟩ := Option.isSome_iff_exists.mp fourth
  have long : MIN_DATA_LEN ≤ data.length := long
  rw [fromBytes, dif_pos long]
  simp only [first, second, third, fourth, Option.bind_eq_bind, Option.bind_some, Option.pure_def,
    Option.isSome_some]

theorem fromLeBytes_littleEndian (value : UInt64) :
    fromLeBytes (littleEndian 8 value.toNat) = some value := by
  have fits : value.toNat < 256 ^ 8 := value.toNat_lt
  rw [fromLeBytes, if_pos (length_littleEndian 8 _), ofLittleEndian_littleEndian fits,
    UInt64.ofNat_toNat]

theorem littleEndian_of_fromLeBytes {bytes : List UInt8} {value : UInt64}
    (read : fromLeBytes bytes = some value) : littleEndian 8 value.toNat = bytes := by
  unfold fromLeBytes at read
  split at read
  · rename_i wide
    cases read
    have fits : ofLittleEndian bytes < UInt64.size := by
      have bound := ofLittleEndian_lt bytes
      rwa [wide] at bound
    rw [UInt64.toNat_ofNat_of_lt' fits, ← wide]
    exact littleEndian_ofLittleEndian bytes
  · cases read

theorem bytes_of_tryFrom {bytes : List UInt8} {key : Pubkey}
    (read : Pubkey.tryFrom bytes = some key) : key.bytes = bytes := by
  unfold Pubkey.tryFrom at read
  split at read
  · cases read
    rfl
  · cases read

theorem tryFrom_bytes (key : Pubkey) : Pubkey.tryFrom key.bytes = some key := by
  rw [Pubkey.tryFrom, dif_pos key.length_eq]

@[simp] theorem length_layout (record : ParsedDelegationRecord) : record.layout.length = 80 := by
  simp [layout, record.authority.length_eq, record.owner.length_eq]

/-- The fields of `from_bytes` are consecutive parts of the data. -/
theorem fromBytes_append {discriminator authority owner slot lamports trailing : List UInt8}
    (parts : data = discriminator ++ (authority ++ (owner ++ (slot ++ (lamports ++ trailing)))))
    (first : discriminator.length = 8) (second : authority.length = 32) (third : owner.length = 32)
    (fourth : slot.length = 8) (fifth : lamports.length = 8) :
    fromBytes data =
      (Pubkey.tryFrom authority).bind fun authority => (Pubkey.tryFrom owner).bind fun owner =>
        (fromLeBytes slot).bind fun delegationSlot => (fromLeBytes lamports).bind fun lamports =>
          some { authority, owner, delegationSlot, lamports } := by
  have long : MIN_DATA_LEN ≤ data.length := by
    change 88 ≤ data.length
    simp only [parts, List.length_append, first, second, third, fourth, fifth]
    omega
  have authority_eq (within) : slice data AUTHORITY_OFFSET OWNER_OFFSET within = authority :=
    slice_eq parts first (by rw [second]; rfl) within
  have owner_eq (within) : slice data OWNER_OFFSET SLOT_OFFSET within = owner := by
    refine slice_eq (parts.trans (List.append_assoc ..).symm) ?_ (by rw [third]; rfl) within
    rw [List.length_append, first, second]
    rfl
  have slot_eq (within) : slice data SLOT_OFFSET LAMPORTS_OFFSET within = slot := by
    have parts : data = (discriminator ++ authority ++ owner) ++ (slot ++ (lamports ++ trailing)) := by
      simpa only [List.append_assoc] using parts
    refine slice_eq parts ?_ (by rw [fourth]; rfl) within
    simp only [List.length_append, first, second, third]
    rfl
  have lamports_eq (within) :
      slice data LAMPORTS_OFFSET (LAMPORTS_OFFSET + 8) within = lamports := by
    have parts : data = (discriminator ++ authority ++ owner ++ slot) ++ (lamports ++ trailing) := by
      simpa only [List.append_assoc] using parts
    refine slice_eq parts ?_ (by rw [fifth]) within
    simp only [List.length_append, first, second, third, fourth]
    rfl
  rw [fromBytes, dif_pos long]
  simp only [authority_eq, owner_eq, slot_eq, lamports_eq, Option.bind_eq_bind, Option.pure_def]

/-- The record read from data is the one whose layout stands after the discriminator. -/
theorem fromBytes_eq_some_iff :
    fromBytes data = some record ↔
      ∃ discriminator trailing, discriminator.length = 8 ∧
        data = discriminator ++ (record.layout ++ trailing) := by
  constructor
  · intro read
    have long : 88 ≤ data.length := by
      by_contra short
      have short : ¬ MIN_DATA_LEN ≤ data.length := short
      rw [fromBytes, dif_neg short] at read
      cases read
    obtain ⟨discriminator, rest, rfl, first⟩ := exists_append data 8 (by omega)
    simp only [List.length_append, first] at long
    obtain ⟨authority, rest, rfl, second⟩ := exists_append rest 32 (by omega)
    simp only [List.length_append, second] at long
    obtain ⟨owner, rest, rfl, third⟩ := exists_append rest 32 (by omega)
    simp only [List.length_append, third] at long
    obtain ⟨slot, rest, rfl, fourth⟩ := exists_append rest 8 (by omega)
    simp only [List.length_append, fourth] at long
    obtain ⟨lamports, rest, rfl, fifth⟩ := exists_append rest 8 (by omega)
    rw [fromBytes_append rfl first second third fourth fifth] at read
    simp only [Option.bind_eq_some_iff, Option.some.injEq] at read
    obtain ⟨a, authority_eq, o, owner_eq, s, slot_eq, l, lamports_eq, rfl⟩ := read
    refine ⟨discriminator, rest, first, ?_⟩
    simp only [layout, bytes_of_tryFrom authority_eq, bytes_of_tryFrom owner_eq,
      littleEndian_of_fromLeBytes slot_eq, littleEndian_of_fromLeBytes lamports_eq, List.append_assoc]
  · rintro ⟨discriminator, trailing, first, rfl⟩
    simp only [layout, List.append_assoc]
    rw [fromBytes_append rfl first record.authority.length_eq record.owner.length_eq
      (length_littleEndian ..) (length_littleEndian ..)]
    simp [tryFrom_bytes, fromLeBytes_littleEndian]

/-- A record is read from any data of at least 88 bytes, all slices and conversions
succeeding, and from no other; it is the record laid out after the discriminator,
whatever the discriminator and the trailing bytes, and nothing else decides it. -/
theorem fromBytes_inverts_layout :
    (∀ data, (fromBytes data).isSome ↔ 88 ≤ data.length) ∧
    (∀ data, 88 ≤ data.length → Readable data) ∧
    (∀ discriminator record trailing, discriminator.length = 8 →
      fromBytes (discriminator ++ record.layout ++ trailing) = some record) ∧
    (∀ data data', 88 ≤ data.length → 88 ≤ data'.length →
      (data.drop 8).take 80 = (data'.drop 8).take 80 → fromBytes data = fromBytes data') ∧
    (∀ data record, fromBytes data = some record → record.layout = (data.drop 8).take 80) := by
  have reads (discriminator : List UInt8) (record : ParsedDelegationRecord) (trailing : List UInt8)
      (first : discriminator.length = 8) :
      fromBytes (discriminator ++ record.layout ++ trailing) = some record := by
    rw [List.append_assoc]
    exact fromBytes_eq_some_iff.mpr ⟨discriminator, trailing, first, rfl⟩
  have writes (data : List UInt8) (record : ParsedDelegationRecord)
      (read : fromBytes data = some record) : record.layout = (data.drop 8).take 80 := by
    obtain ⟨discriminator, trailing, first, rfl⟩ := fromBytes_eq_some_iff.mp read
    rw [List.drop_left' first, List.take_left' (length_layout record)]
  have long_iff (data : List UInt8) : (fromBytes data).isSome ↔ 88 ≤ data.length := by
    constructor
    · intro isSome
      obtain ⟨record, read⟩ := Option.isSome_iff_exists.mp isSome
      obtain ⟨discriminator, trailing, first, rfl⟩ := fromBytes_eq_some_iff.mp read
      simp only [List.length_append, first, length_layout]
      omega
    · intro long
      exact isSome_of_readable long (readable_of_long long)
  refine ⟨long_iff, fun _ => readable_of_long, reads, ?_, writes⟩
  intro data data' long long' same
  obtain ⟨record, read⟩ := Option.isSome_iff_exists.mp ((long_iff data).mpr long)
  obtain ⟨record', read'⟩ := Option.isSome_iff_exists.mp ((long_iff data').mpr long')
  -- both data hold the same 80 bytes, so the second reads the first one's record
  have layouts : record.layout = record'.layout :=
    (writes data record read).trans (same.trans (writes data' record' read').symm)
  obtain ⟨discriminator, trailing, first, rfl⟩ := fromBytes_eq_some_iff.mp read'
  rw [read, ← layouts, ← List.append_assoc, reads discriminator record trailing first]

def sampleRecord : ParsedDelegationRecord where
  authority := .repeating 7
  owner := .repeating 8
  delegationSlot := 258
  lamports := 18446744073709551615

/-- The largest amount is read back, whatever stands before and after the record. -/
theorem sampleRecord_read :
    fromBytes (List.replicate 8 100 ++ sampleRecord.layout ++ [1, 2, 3]) = some sampleRecord :=
  fromBytes_inverts_layout.2.2.1 _ _ _ rfl

end ParsedDelegationRecord

end MagicRouter
