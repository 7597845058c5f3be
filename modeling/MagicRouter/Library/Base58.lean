import MagicRouter.Library.Numeral

/-! Base58 with the Bitcoin alphabet: a byte string is read as a numeral of radix 256
and written in radix 58, a leading zero byte as the digit `1`. -/

namespace MagicRouter.Library.Base58

def alphabet : List Char := "123456789ABCDEFGHJKLMNPQRSTUVWXYZabcdefghijkmnopqrstuvwxyz".toList

theorem alphabet_length : alphabet.length = 58 := rfl

theorem alphabet_nodup : alphabet.Nodup := by decide

def symbol (digit : Fin 58) : Char := alphabet.get (digit.cast alphabet_length.symm)

/-- The digit a character stands for, if it belongs to the alphabet. -/
def digit? (char : Char) : Option (Fin 58) :=
  (List.finRange 58).find? fun digit => symbol digit = char

def encode (bytes : List UInt8) : List Char :=
  (Numeral.rebase 58 (bytes.map UInt8.toFin)).map symbol

def decode (text : List Char) : Option (List UInt8) :=
  (text.mapM digit?).map fun digits => (Numeral.rebase 256 digits).map UInt8.ofFin

theorem symbol_injective : Function.Injective symbol := by
  intro digit digit' same
  have index := alphabet_nodup.injective_get same
  exact Fin.ext (congrArg Fin.val index)

theorem digit?_eq_some_iff {char : Char} {digit : Fin 58} :
    digit? char = some digit ↔ symbol digit = char := by
  constructor
  · intro found
    simpa using List.find?_some found
  · rintro rfl
    have isSome : (digit? (symbol digit)).isSome := by
      rw [digit?, List.find?_isSome]
      exact ⟨digit, List.mem_finRange digit, decide_eq_true rfl⟩
    obtain ⟨digit', found⟩ := Option.isSome_iff_exists.mp isSome
    have same : symbol digit' = symbol digit := by simpa using List.find?_some found
    rw [found, symbol_injective same]

/-- A text is read as the digits it is written with. -/
theorem mapM_digit?_eq_some_iff {text : List Char} {digits : List (Fin 58)} :
    text.mapM digit? = some digits ↔ digits.map symbol = text := by
  induction text generalizing digits with
  | nil => cases digits <;> simp
  | cons char rest ih =>
    simp only [List.mapM_cons, Option.bind_eq_bind, Option.bind_eq_some_iff, Option.pure_def,
      Option.some.injEq]
    constructor
    · intro read
      obtain ⟨digit, here, others, there, rfl⟩ := read
      rw [List.map_cons, digit?_eq_some_iff.mp here, ih.mp there]
    · intro written
      obtain ⟨digit, others, rfl, here, there⟩ := List.map_eq_cons_iff.mp written
      exact ⟨digit, digit?_eq_some_iff.mpr here, others, ih.mpr there, rfl⟩

theorem decode_encode (bytes : List UInt8) : decode (encode bytes) = some bytes := by
  rw [decode, encode, mapM_digit?_eq_some_iff.mpr rfl, Option.map_some,
    Numeral.rebase_rebase (by decide) (by decide), List.map_map]
  exact congrArg some (List.map_id bytes)

/-- No two texts decode to the same bytes. -/
theorem encode_of_decode {text : List Char} {bytes : List UInt8}
    (decoded : decode text = some bytes) : encode bytes = text := by
  obtain ⟨digits, read, rfl⟩ := Option.map_eq_some_iff.mp decoded
  have same : ((Numeral.rebase 256 digits).map UInt8.ofFin).map UInt8.toFin =
      Numeral.rebase 256 digits := by
    rw [List.map_map]
    exact List.map_id _
  rw [encode, same, Numeral.rebase_rebase (by decide) (by decide)]
  exact mapM_digit?_eq_some_iff.mp read

/-- Any length whose power of 58 covers all byte strings of the given length is enough. -/
theorem length_encode_le {bytes : List UInt8} {length : Nat}
    (covers : 256 ^ bytes.length ≤ 58 ^ length) : (encode bytes).length ≤ length := by
  rw [encode, List.length_map]
  apply Numeral.length_rebase_le (by decide) (by decide)
  rwa [List.length_map]

end MagicRouter.Library.Base58
