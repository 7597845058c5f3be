import Mathlib.Logic.Function.Iterate
import Mathlib.Tactic.Common

/-! Members that take turns, each counted when it is served in its turn. A turn may also
be passed on with nobody served. Nothing here depends on what the members are. -/

namespace MagicRouter.Library

/-- The members are the numbers below `size`. -/
structure Rotation where
  size : Nat
  next : Nat
  next_lt : next < size
  served : Nat → Nat

namespace Rotation

variable {r : Rotation} {i ahead later : Nat}

theorem size_pos (r : Rotation) : 0 < r.size :=
  Nat.lt_of_le_of_lt (Nat.zero_le _) r.next_lt

/-- The turn goes to the next member. -/
def pass (r : Rotation) : Rotation :=
  { r with
    next := (r.next + 1) % r.size
    next_lt := Nat.mod_lt _ r.size_pos }

/-- The member whose turn it is has been served. -/
def use (r : Rotation) : Rotation :=
  { r.pass with served := fun i => r.served i + if i = r.next then 1 else 0 }

/-- The member whose turn it is after the given number of turns. -/
def member (r : Rotation) (ahead : Nat) : Nat :=
  (r.next + ahead) % r.size

/-- No member has been served more than once more often than another. -/
def Level (r : Rotation) : Prop :=
  ∀ i < r.size, ∀ j < r.size, r.served i ≤ r.served j + 1

def Even (r : Rotation) : Prop :=
  ∀ i < r.size, ∀ j < r.size, r.served i = r.served j

/-- Members whose turn is still to come have not been served less often than those before
them, and at most once more often. -/
def Steady (r : Rotation) : Prop :=
  ∀ ahead later, ahead ≤ later → later < r.size →
    r.served (r.member ahead) ≤ r.served (r.member later) ∧
      r.served (r.member later) ≤ r.served (r.member ahead) + 1

theorem member_lt (r : Rotation) (ahead : Nat) : r.member ahead < r.size :=
  Nat.mod_lt _ r.size_pos

@[simp] theorem member_zero (r : Rotation) : r.member 0 = r.next :=
  Nat.mod_eq_of_lt r.next_lt

@[simp] theorem member_size (r : Rotation) : r.member r.size = r.next := by
  rw [member, Nat.add_mod_right, Nat.mod_eq_of_lt r.next_lt]

@[simp] theorem member_pass (r : Rotation) (ahead : Nat) :
    r.pass.member ahead = r.member (ahead + 1) := by
  simp only [member, pass, Nat.mod_add_mod]
  congr 1
  omega

@[simp] theorem member_use (r : Rotation) (ahead : Nat) :
    r.use.member ahead = r.member (ahead + 1) :=
  member_pass r ahead

theorem exists_member (below : i < r.size) : ∃ ahead < r.size, r.member ahead = i := by
  have positive := r.next_lt
  by_cases passed : r.next ≤ i
  · refine ⟨i - r.next, by omega, ?_⟩
    rw [member, Nat.add_sub_cancel' passed, Nat.mod_eq_of_lt below]
  · -- its turn comes only after the last member's
    refine ⟨i + r.size - r.next, by omega, ?_⟩
    have turn : r.next + (i + r.size - r.next) = i + r.size := by omega
    rw [member, turn, Nat.add_mod_right, Nat.mod_eq_of_lt below]

theorem member_inj (first : ahead < r.size) (second : later < r.size) :
    r.member ahead = r.member later ↔ ahead = later := by
  have turn (k : Nat) (below : k < r.size) :
      r.member k = if r.next + k < r.size then r.next + k else r.next + k - r.size := by
    have positive := r.next_lt
    unfold member
    split
    · next within => exact Nat.mod_eq_of_lt within
    · next beyond =>
      rw [Nat.mod_eq_sub_mod (Nat.le_of_not_lt beyond), Nat.mod_eq_of_lt (by omega)]
  have positive := r.next_lt
  rw [turn ahead first, turn later second]
  split <;> split <;> omega

theorem Steady.level (steady : r.Steady) : r.Level := by
  intro i within j within'
  obtain ⟨first, below, rfl⟩ := exists_member within
  obtain ⟨second, below', rfl⟩ := exists_member within'
  rcases Nat.le_total first second with order | order
  · have bound := steady first second order below'
    omega
  · have bound := steady second first order below
    omega

theorem Even.steady (even : r.Even) : r.Steady := by
  intro ahead later _ _
  have same := even _ (r.member_lt ahead) _ (r.member_lt later)
  omega

theorem served_use_member (more : ahead + 1 < r.size) :
    r.use.served (r.use.member ahead) = r.served (r.member (ahead + 1)) := by
  have other : r.member (ahead + 1) ≠ r.next := by
    rw [← member_zero, Ne, member_inj more r.size_pos]
    omega
  rw [member_use]
  simp [use, other]

theorem served_use_last (last : ahead + 1 = r.size) :
    r.use.served (r.use.member ahead) = r.served r.next + 1 := by
  rw [member_use, last, member_size]
  simp [use]

/-- A member served in its turn comes last from then on. -/
theorem Steady.use (steady : r.Steady) : r.use.Steady := by
  intro ahead later order below
  change later < r.size at below
  rcases Nat.lt_or_ge (later + 1) r.size with more | last
  · rw [served_use_member more, served_use_member (by omega)]
    exact steady (ahead + 1) (later + 1) (by omega) more
  · have last : later + 1 = r.size := by omega
    rw [served_use_last last]
    rcases Nat.lt_or_ge (ahead + 1) r.size with more | last'
    · rw [served_use_member more]
      have bound := steady 0 (ahead + 1) (Nat.zero_le _) more
      rw [member_zero] at bound
      omega
    · rw [served_use_last (by omega)]
      omega

/-- A turn can be passed on with nobody served only while all are even. -/
theorem steady_pass_iff (steady : r.Steady) : r.pass.Steady ↔ r.Even := by
  constructor
  · intro passed
    have same (ahead : Nat) (below : ahead < r.size) :
        r.served (r.member ahead) = r.served r.next := by
      cases ahead with
      | zero => rw [member_zero]
      | succ ahead =>
        have positive := r.size_pos
        have last : r.size - 1 + 1 = r.size := by omega
        -- the member whose turn is passed on comes last, and was first before
        have below' : r.size - 1 < r.pass.size := Nat.sub_lt positive Nat.one_pos
        have after := (passed ahead (r.size - 1) (by omega) below').1
        rw [member_pass, member_pass, last, member_size] at after
        have before := (steady 0 (ahead + 1) (Nat.zero_le _) below).1
        rw [member_zero] at before
        exact Nat.le_antisymm after before
    intro i within j within'
    obtain ⟨first, below, rfl⟩ := exists_member within
    obtain ⟨second, below', rfl⟩ := exists_member within'
    rw [same first below, same second below']
  · intro even
    have kept : r.pass.Even := even
    exact kept.steady

theorem next_iterate_use (r : Rotation) (count : Nat) :
    (Rotation.use^[count] r).next = r.member count ∧ (Rotation.use^[count] r).size = r.size := by
  induction count with
  | zero => exact ⟨r.member_zero.symm, rfl⟩
  | succ count ih =>
    rw [Function.iterate_succ_apply']
    refine ⟨?_, ih.2⟩
    change ((Rotation.use^[count] r).next + 1) % (Rotation.use^[count] r).size = _
    rw [ih.1, ih.2, member, member, Nat.mod_add_mod, Nat.add_assoc]

theorem served_iterate_use (within : ahead < r.size) {count : Nat} (round : count ≤ r.size) :
    (Rotation.use^[count] r).served (r.member ahead) =
      r.served (r.member ahead) + if ahead < count then 1 else 0 := by
  induction count with
  | zero => simp
  | succ count ih =>
    rw [Function.iterate_succ_apply']
    change (Rotation.use^[count] r).served (r.member ahead) +
      (if r.member ahead = (Rotation.use^[count] r).next then 1 else 0) = _
    rw [ih (by omega), (next_iterate_use r count).1]
    simp only [member_inj within (show count < r.size by omega)]
    grind

/-- The members stay level however often they are then served exactly if they are steady. -/
theorem steady_iff_level_iterate_use :
    r.Steady ↔ ∀ count, (Rotation.use^[count] r).Level := by
  constructor
  · intro steady count
    have kept : (Rotation.use^[count] r).Steady := by
      induction count with
      | zero => exact steady
      | succ count ih =>
        rw [Function.iterate_succ_apply']
        exact ih.use
    exact kept.level
  · intro level ahead later order below
    have now : r.Level := level 0
    refine ⟨?_, now _ (r.member_lt later) _ (r.member_lt ahead)⟩
    rcases Nat.eq_or_lt_of_le order with rfl | before
    · exact Nat.le_refl _
    · -- once the earlier of the two has been served again, and the later one not yet
      have again := level (ahead + 1) (r.member ahead) (by
        rw [(next_iterate_use r _).2]
        exact r.member_lt ahead) (r.member later) (by
        rw [(next_iterate_use r _).2]
        exact r.member_lt later)
      rw [served_iterate_use (by omega) (by omega), served_iterate_use below (by omega)] at again
      grind

end Rotation

end MagicRouter.Library
