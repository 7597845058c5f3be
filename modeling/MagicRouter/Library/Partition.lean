import Mathlib.Data.List.Induction

/-! A list split by a classification of its items, with the position each item came
from, and the answers to the parts put back at these positions. -/

namespace MagicRouter.Library

universe u v w

variable {Item : Type u} {Class : Type v} {Value : Type w} [DecidableEq Class]
variable (classify : Item → Class) (cls : Class)

/-- The items of one class, each after its position. -/
def positions (items : List Item) : List (Nat × Item) :=
  (items.zipIdx.filter fun entry => classify entry.1 = cls).map fun entry => (entry.2, entry.1)

/-- The number of items of the class before a position. -/
def rank (items : List Item) (i : Nat) : Nat :=
  ((items.take i).filter fun item => classify item = cls).length

theorem positions_snoc (items : List Item) (item : Item) :
    positions classify cls (items ++ [item]) =
      positions classify cls items ++ if classify item = cls then [(items.length, item)] else [] := by
  by_cases here : classify item = cls
  · simp [positions, List.zipIdx_append, here]
  · simp [positions, List.zipIdx_append, here]

theorem positions_items (items : List Item) :
    (positions classify cls items).map (·.2) = items.filter fun item => classify item = cls := by
  induction items using List.reverseRecOn with
  | nil => rfl
  | append_singleton earlier item ih =>
    rw [positions_snoc, List.map_append, ih, List.filter_append]
    by_cases here : classify item = cls <;> simp [here]

theorem positions_eq_nil_iff (items : List Item) :
    positions classify cls items = [] ↔ ∀ item ∈ items, classify item ≠ cls := by
  rw [← List.map_eq_nil_iff, positions_items]
  simp [List.filter_eq_nil_iff]

theorem rank_succ (head : Item) (rest : List Item) (i : Nat) :
    rank classify cls (head :: rest) (i + 1) =
      (if classify head = cls then 1 else 0) + rank classify cls rest i := by
  by_cases here : classify head = cls
  · simp [rank, here, Nat.add_comm]
  · simp [rank, here]

private theorem positions_from_iff (items : List Item) (start j i : Nat) (item : Item) :
    ((items.zipIdx start).filter fun entry => classify entry.1 = cls)[j]? = some (item, i) ↔
      ∃ k, i = start + k ∧ items[k]? = some item ∧ classify item = cls ∧
        j = rank classify cls items k := by
  induction items generalizing start j with
  | nil => simp
  | cons head rest ih =>
    -- position 0 is the head, and the others are those of the rest moved up by one
    have moved (target : Nat) : (∃ k, i = start + k ∧ (head :: rest)[k]? = some item ∧
        classify item = cls ∧ target = rank classify cls (head :: rest) k) ↔
        (i = start ∧ head = item ∧ classify item = cls ∧ target = 0) ∨
        ∃ k, i = start + 1 + k ∧ rest[k]? = some item ∧ classify item = cls ∧
          target = (if classify head = cls then 1 else 0) + rank classify cls rest k := by
      constructor
      · rintro ⟨k, place, found, here, order⟩
        cases k with
        | zero => exact .inl ⟨place, by simpa using found, here, by simpa [rank] using order⟩
        | succ k => exact .inr ⟨k, by omega, by simpa using found, here, by rwa [rank_succ] at order⟩
      · rintro (⟨place, found, here, order⟩ | ⟨k, place, found, here, order⟩)
        · exact ⟨0, place, by simpa using found, here, by simpa [rank] using order⟩
        · exact ⟨k + 1, by omega, by simpa using found, here, by rwa [rank_succ]⟩
    rw [List.zipIdx_cons, moved]
    by_cases first : classify head = cls
    · rw [List.filter_cons_of_pos (by simpa using first)]
      cases j with
      | zero =>
        simp only [List.getElem?_cons_zero, Option.some.injEq, Prod.mk.injEq, if_pos first]
        constructor
        · rintro ⟨rfl, rfl⟩
          exact .inl ⟨rfl, rfl, first, trivial⟩
        · rintro (⟨rfl, rfl, _, _⟩ | ⟨_, _, _, _, order⟩)
          · exact ⟨rfl, rfl⟩
          · omega
      | succ j =>
        rw [List.getElem?_cons_succ, ih, if_pos first]
        simp [Nat.add_comm 1]
    · rw [List.filter_cons_of_neg (by simpa using first), ih, if_neg first]
      simp only [Nat.zero_add]
      constructor
      · exact .inr
      · rintro (⟨_, rfl, here, _⟩ | later)
        · exact absurd here first
        · exact later

/-- An item stands in its class where as many of the class precede it. -/
theorem positions_getElem?_iff (items : List Item) (j i : Nat) (item : Item) :
    (positions classify cls items)[j]? = some (i, item) ↔
      items[i]? = some item ∧ classify item = cls ∧ j = rank classify cls items i := by
  have listed := positions_from_iff classify cls items 0 j i item
  simp only [Nat.zero_add, exists_eq_left'] at listed
  rw [← listed, positions, List.getElem?_map, Option.map_eq_some_iff]
  constructor
  · rintro ⟨⟨item', i'⟩, found, same⟩
    cases same
    exact found
  · intro found
    exact ⟨(item, i), found, rfl⟩

/-- Put values at positions of a row. -/
def writeAll (row : List Value) (writes : List (Nat × Value)) : List Value :=
  writes.foldl (fun row write => row.set write.1 write.2) row

theorem length_writeAll (row : List Value) (writes : List (Nat × Value)) :
    (writeAll row writes).length = row.length := by
  induction writes generalizing row with
  | nil => rfl
  | cons write rest ih =>
    rw [writeAll, List.foldl_cons, ← writeAll, ih, List.length_set]

/-- Where all writes to a position agree, their order does not matter. -/
theorem writeAll_getElem? {row : List Value} {writes : List (Nat × Value)} {answer : Nat → Value}
    {i : Nat} (agree : ∀ write ∈ writes, write.2 = answer write.1) (within : i < row.length)
    (written : (∃ write ∈ writes, write.1 = i) ∨ row[i]? = some (answer i)) :
    (writeAll row writes)[i]? = some (answer i) := by
  induction writes generalizing row with
  | nil =>
    rcases written with ⟨_, member, _⟩ | before
    · cases member
    · exact before
  | cons write rest ih =>
    rw [writeAll, List.foldl_cons, ← writeAll]
    apply ih (fun later member => agree later (List.mem_cons_of_mem _ member))
      (by simpa using within)
    by_cases here : write.1 = i
    · right
      rw [here, List.getElem?_set_self within, agree write List.mem_cons_self, here]
    · rcases written with ⟨other, member, same⟩ | before
      · rcases List.mem_cons.mp member with rfl | later
        · exact absurd same here
        · exact .inl ⟨other, later, same⟩
      · right
        rwa [List.getElem?_set_ne here]

end MagicRouter.Library
