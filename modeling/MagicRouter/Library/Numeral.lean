import Mathlib.Data.Nat.Digits.Lemmas

/-! Numbers written as lists of digits: bytes of a fixed width, lowest first, and
numerals of any radix, highest digit first, whose leading zeros count. -/

namespace MagicRouter.Library

/-- The number whose bytes, lowest first, are given. -/
def ofLittleEndian (bytes : List UInt8) : Nat :=
  bytes.foldr (fun byte value => byte.toNat + 256 * value) 0

/-- The lowest `width` bytes of a number, lowest first. -/
def littleEndian : (width value : Nat) → List UInt8
  | 0, _ => []
  | width + 1, value => UInt8.ofNat value :: littleEndian width (value / 256)

@[simp] theorem length_littleEndian (width value : Nat) :
    (littleEndian width value).length = width := by
  induction width generalizing value with
  | zero => rfl
  | succ width ih => rw [littleEndian, List.length_cons, ih]

theorem ofLittleEndian_lt (bytes : List UInt8) : ofLittleEndian bytes < 256 ^ bytes.length := by
  induction bytes with
  | nil => exact Nat.one_pos
  | cons byte rest ih =>
    have below : byte.toNat < 256 := byte.toNat_lt
    change byte.toNat + 256 * ofLittleEndian rest < 256 ^ (rest.length + 1)
    rw [Nat.pow_succ]
    omega

theorem ofLittleEndian_littleEndian {width value : Nat} (fits : value < 256 ^ width) :
    ofLittleEndian (littleEndian width value) = value := by
  induction width generalizing value with
  | zero =>
    rw [Nat.pow_zero] at fits
    exact (Nat.lt_one_iff.mp fits).symm
  | succ width ih =>
    rw [Nat.pow_succ] at fits
    have rest : ofLittleEndian (littleEndian width (value / 256)) = value / 256 := ih (by omega)
    change (UInt8.ofNat value).toNat + 256 * ofLittleEndian (littleEndian width (value / 256)) = value
    rw [rest, UInt8.toNat_ofNat']
    exact Nat.mod_add_div value 256

theorem littleEndian_ofLittleEndian (bytes : List UInt8) :
    littleEndian bytes.length (ofLittleEndian bytes) = bytes := by
  induction bytes with
  | nil => rfl
  | cons byte rest ih =>
    have below : byte.toNat < 256 := byte.toNat_lt
    have high : (byte.toNat + 256 * ofLittleEndian rest) / 256 = ofLittleEndian rest := by omega
    have low : UInt8.ofNat (byte.toNat + 256 * ofLittleEndian rest) = byte := by
      apply UInt8.toNat.inj
      rw [UInt8.toNat_ofNat']
      omega
    change UInt8.ofNat (byte.toNat + 256 * ofLittleEndian rest) ::
      littleEndian rest.length ((byte.toNat + 256 * ofLittleEndian rest) / 256) = byte :: rest
    rw [low, high, ih]

namespace Numeral

variable {radix radix' : Nat}

/-- The number a numeral denotes. -/
def value (digits : List (Fin radix)) : Nat :=
  Nat.ofDigits radix (digits.map Fin.val).reverse

/-- The shortest numeral of a number; that of zero is empty. -/
def shortest (radix : Nat) [NeZero radix] (number : Nat) : List (Fin radix) :=
  ((Nat.digits radix number).map (Fin.ofNat radix)).reverse

/-- How many zeros a numeral starts with. -/
def zeros [NeZero radix] (digits : List (Fin radix)) : Nat :=
  (digits.takeWhile fun digit => digit = 0).length

/-- The same number in another radix, after as many zeros. -/
def rebase (radix' : Nat) [NeZero radix] [NeZero radix'] (digits : List (Fin radix)) :
    List (Fin radix') :=
  List.replicate (zeros digits) 0 ++ shortest radix' (value digits)

variable [NeZero radix] [NeZero radix'] {digits : List (Fin radix)}

theorem value_replicate_append (count : Nat) (rest : List (Fin radix)) :
    value (List.replicate count 0 ++ rest) = value rest := by
  simp [value, Nat.ofDigits_append_replicate_zero]

theorem zeros_replicate_append {rest : List (Fin radix)} (count : Nat)
    (starts : rest.head? ≠ some 0) : zeros (List.replicate count 0 ++ rest) = count := by
  have none : rest.takeWhile (fun digit => digit = 0) = [] := by
    cases rest with
    | nil => rfl
    | cons digit rest => exact List.takeWhile_cons_of_neg (by simpa using starts)
  rw [zeros, List.takeWhile_append_of_pos (by simp), none]
  simp

/-- A numeral is its leading zeros and a numeral without any. -/
theorem exists_replicate_append (digits : List (Fin radix)) :
    ∃ count rest, digits = List.replicate count 0 ++ rest ∧ rest.head? ≠ some 0 := by
  induction digits with
  | nil => exact ⟨0, [], rfl, by simp⟩
  | cons digit rest ih =>
    by_cases zero : digit = 0
    · obtain ⟨count, tail, rfl, starts⟩ := ih
      exact ⟨count + 1, tail, by simp [zero, List.replicate_succ], starts⟩
    · exact ⟨0, digit :: rest, rfl, by simpa using zero⟩

section Radix

variable (large : 1 < radix)
include large

theorem val_shortest (number : Nat) :
    (shortest radix number).map Fin.val = (Nat.digits radix number).reverse := by
  rw [shortest, List.map_reverse, List.map_map]
  congr 1
  conv_rhs => rw [← List.map_id (Nat.digits radix number)]
  apply List.map_congr_left
  intro digit member
  exact Nat.mod_eq_of_lt (Nat.digits_lt_base large member)

theorem value_shortest (number : Nat) : value (shortest radix number) = number := by
  rw [value, val_shortest large, List.reverse_reverse, Nat.ofDigits_digits]

theorem shortest_head (number : Nat) : (shortest radix number).head? ≠ some 0 := by
  intro starts
  have first : ((shortest radix number).map Fin.val).head? = some 0 := by
    rw [List.head?_map, starts]
    simp
  rw [val_shortest large, List.head?_reverse] at first
  by_cases zero : number = 0
  · simp [zero] at first
  · have present : Nat.digits radix number ≠ [] := Nat.digits_ne_nil_iff_ne_zero.mpr zero
    rw [List.getLast?_eq_some_getLast present] at first
    exact Nat.getLast_digit_ne_zero radix zero (Option.some.inj first)

theorem shortest_value (starts : digits.head? ≠ some 0) : shortest radix (value digits) = digits := by
  apply List.map_injective_iff.mpr Fin.val_injective
  rw [val_shortest large, value, Nat.digits_ofDigits radix large]
  · rw [List.reverse_reverse]
  · intro digit member
    obtain ⟨digit, _, rfl⟩ := List.mem_map.mp (List.mem_reverse.mp member)
    exact digit.isLt
  · intro present last
    cases digits with
    | nil => exact present rfl
    | cons digit rest =>
      simp only [List.map_cons, List.reverse_cons, List.getLast_append_singleton] at last
      exact starts (congrArg some (Fin.ext last))

end Radix

/-- Writing a numeral in another radix loses nothing. -/
theorem rebase_rebase (large : 1 < radix) (large' : 1 < radix') (digits : List (Fin radix)) :
    rebase radix (rebase radix' digits) = digits := by
  obtain ⟨count, rest, rfl, starts⟩ := exists_replicate_append digits
  have there : rebase radix' (List.replicate count 0 ++ rest) =
      List.replicate count 0 ++ shortest radix' (value rest) := by
    rw [rebase, zeros_replicate_append count starts, value_replicate_append]
  rw [there, rebase, zeros_replicate_append count (shortest_head large' _), value_replicate_append,
    value_shortest large', shortest_value large starts]

/-- A smaller radix needs at most as many digits as cover all numerals of the given
length. -/
theorem length_rebase_le (large : 1 < radix') (finer : radix' ≤ radix) {length' : Nat}
    (covers : radix ^ digits.length ≤ radix' ^ length') :
    (rebase radix' digits).length ≤ length' := by
  obtain ⟨count, rest, rfl, starts⟩ := exists_replicate_append digits
  have positive : 0 < radix' ^ count := Nat.pow_pos (Nat.lt_trans Nat.one_pos large)
  have below : value rest < radix ^ rest.length := by
    have bound := Nat.ofDigits_lt_base_pow_length (Nat.lt_of_lt_of_le large finer)
      (l := (rest.map Fin.val).reverse) (by simp)
    simpa [value] using bound
  -- every leading zero takes the place of a digit of the larger radix
  have room : radix ^ rest.length * radix' ^ count ≤ radix' ^ length' := calc
    _ ≤ radix ^ rest.length * radix ^ count := Nat.mul_le_mul_left _ (Nat.pow_le_pow_left finer _)
    _ = radix ^ (List.replicate count 0 ++ rest).length := by
      rw [List.length_append, List.length_replicate, Nat.pow_add, Nat.mul_comm]
    _ ≤ radix' ^ length' := covers
  have longer : count ≤ length' := by
    apply (Nat.pow_le_pow_iff_right large).mp
    refine Nat.le_trans ?_ room
    exact Nat.le_mul_of_pos_left _ (Nat.pow_pos (by omega))
  rw [rebase, zeros_replicate_append count starts, value_replicate_append, List.length_append,
    List.length_replicate]
  have short : (shortest radix' (value rest)).length ≤ length' - count := by
    rw [shortest, List.length_reverse, List.length_map, Nat.digits_length_le_iff large]
    apply Nat.lt_of_mul_lt_mul_right (a := radix' ^ count)
    rw [← Nat.pow_add, Nat.sub_add_cancel longer]
    exact Nat.lt_of_lt_of_le (Nat.mul_lt_mul_of_pos_right below positive) room
  omega

end Numeral

end MagicRouter.Library
