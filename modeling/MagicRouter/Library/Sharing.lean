import Mathlib.Data.List.Basic

/-! Items with the one they belong to, and a queue that several members take from.
Nothing here depends on a particular system. -/

namespace MagicRouter.Library

universe u v

/-- The items that belong to one owner, in order. -/
def share {Owner : Type v} {Item : Type u} [DecidableEq Owner] (items : List (Owner × Item))
    (owner : Owner) : List Item :=
  (items.filter (·.1 = owner)).map Prod.snd

section Share

variable {Owner : Type v} {Item : Type u} [DecidableEq Owner] {items more : List (Owner × Item)}
variable {owner : Owner} {item : Item}

theorem share_append (items more : List (Owner × Item)) (owner : Owner) :
    share (items ++ more) owner = share items owner ++ share more owner := by
  simp [share]

theorem share_cons (first : Owner) (item : Item) (items : List (Owner × Item)) (owner : Owner) :
    share ((first, item) :: items) owner =
      (if first = owner then [item] else []) ++ share items owner := by
  by_cases same : first = owner
  · simp [share, same]
  · simp [share, same]

theorem share_snoc (items : List (Owner × Item)) (last : Owner) (item : Item) (owner : Owner) :
    share (items ++ [(last, item)]) owner =
      share items owner ++ if last = owner then [item] else [] := by
  rw [share_append, share_cons]
  simp [share]

theorem mem_share : item ∈ share items owner ↔ (owner, item) ∈ items := by
  simp [share]

theorem share_eq_nil (absent : ∀ entry ∈ items, entry.1 ≠ owner) : share items owner = [] := by
  simp only [share, List.map_eq_nil_iff, List.filter_eq_nil_iff, decide_eq_true_eq]
  exact absent

end Share

/-- The items of a queue were taken in order, each by one of the members; what is not
taken yet is still queued as long as the queue is open. -/
structure Shared {Item : Type u} (entered queue : List Item) (opened : Bool)
    (takes : List (List Item)) (turns : List (Nat × Item)) : Prop where
  front : turns.map Prod.snd <+: entered
  rest : opened = true → entered = turns.map Prod.snd ++ queue
  members : ∀ turn ∈ turns, turn.1 < takes.length
  shares : ∀ member taken, takes[member]? = some taken → taken = share turns member

namespace Shared

variable {Item : Type u} {entered queue : List Item} {opened : Bool}
variable {takes : List (List Item)} {turns : List (Nat × Item)} {item : Item} {member : Nat}

/-- A queue with members that have taken nothing. -/
theorem start (takes : List (List Item)) (idle : ∀ taken ∈ takes, taken = []) :
    Shared [] [] opened takes [] where
  front := List.prefix_rfl
  rest _ := rfl
  members := nofun
  shares member taken found := by
    rw [idle taken (List.mem_of_getElem? found)]
    rfl

theorem enter (shared : Shared entered queue opened takes turns) (item : Item) :
    Shared (entered ++ [item]) (queue ++ [item]) opened takes turns where
  front := shared.front.trans (List.prefix_append _ _)
  rest now := by rw [shared.rest now, List.append_assoc]
  members := shared.members
  shares := shared.shares

/-- The oldest item is taken by one of the members. -/
theorem take {taken : List Item} (shared : Shared entered (item :: queue) true takes turns)
    (found : takes[member]? = some taken) :
    Shared entered queue true (takes.set member (taken ++ [item])) (turns ++ [(member, item)]) where
  front := by
    rw [shared.rest rfl, List.map_append]
    exact ⟨queue, by simp⟩
  rest _ := by simp [shared.rest rfl]
  members turn entry := by
    rw [List.length_set]
    rcases List.mem_append.mp entry with earlier | now
    · exact shared.members turn earlier
    · rw [List.mem_singleton.mp now]
      exact (List.getElem?_eq_some_iff.mp found).1
  shares other had present := by
    rw [share_snoc, List.getElem?_set] at *
    split at present
    · rename_i same
      subst same
      split at present
      · cases present
        rw [if_pos rfl, ← shared.shares member taken found]
      · cases present
    · rename_i different
      rw [if_neg different, List.append_nil]
      exact shared.shares other had present

/-- The queue is closed, or stays as it is. -/
theorem close (shared : Shared entered queue opened takes turns) {later : List Item} {still : Bool}
    (kept : still = true → opened = true ∧ later = queue) :
    Shared entered later still takes turns where
  front := shared.front
  rest now := by
    obtain ⟨before, same⟩ := kept now
    rw [same]
    exact shared.rest before
  members := shared.members
  shares := shared.shares

end Shared

end MagicRouter.Library
