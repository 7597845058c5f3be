import Mathlib.Data.List.Induction
import Mathlib.Order.Lattice

/-! Stamped values under a rule that takes in an update only if its stamp is larger
than the one held: among updates of one stamp the first decides. -/

namespace MagicRouter.Library.Stamped

universe u v

variable {Stamp : Type u} {Value : Type v} [LinearOrder Stamp]

/-- The stamped value held after an update. -/
def heed (held update : Stamp × Value) : Stamp × Value :=
  if held.1 < update.1 then update else held

/-- The stamped value held after a sequence of updates. -/
def heedAll (held : Stamp × Value) (updates : List (Stamp × Value)) : Stamp × Value :=
  updates.foldl heed held

variable {held update last : Stamp × Value} {updates : List (Stamp × Value)}

theorem heedAll_snoc : heedAll held (updates ++ [update]) = heed (heedAll held updates) update := by
  simp [heedAll]

theorem le_last (ordered : updates.Pairwise fun earlier later => earlier.1 ≤ later.1)
    (final : updates.getLast? = some last) : ∀ update ∈ updates, update.1 ≤ last.1 := by
  obtain ⟨before, rfl⟩ := List.getLast?_eq_some_iff.mp final
  intro update member
  rcases List.mem_append.mp member with earlier | same
  · exact (List.pairwise_append.mp ordered).2.2 update earlier last (List.mem_singleton_self last)
  · exact le_of_eq (congrArg Prod.fst (List.mem_singleton.mp same))

/-- Updates in order leave the first one that has the last stamp. -/
theorem find?_eq_heedAll (ordered : updates.Pairwise fun earlier later => earlier.1 ≤ later.1)
    (newer : ∀ first ∈ updates.head?, held.1 < first.1) (final : updates.getLast? = some last) :
    updates.find? (fun update => update.1 = last.1) = some (heedAll held updates) := by
  induction updates using List.reverseRecOn generalizing last with
  | nil => cases final
  | append_singleton earlier update ih =>
    rw [List.getLast?_concat, Option.some.injEq] at final
    subst final
    obtain ⟨sorted, _, above⟩ := List.pairwise_append.mp ordered
    rw [List.find?_append, heedAll_snoc]
    cases before : earlier.getLast? with
    | none =>
      rw [List.getLast?_eq_none_iff.mp before] at newer ⊢
      have here : held.1 < update.1 := newer update rfl
      simp [heed, heedAll, here]
    | some previous =>
      have present : previous ∈ earlier := List.mem_of_getLast? before
      have first : ∀ first ∈ earlier.head?, held.1 < first.1 := by
        intro first member
        exact newer first (by simp [List.head?_append, Option.mem_def.mp member])
      have found := ih sorted first before
      have stamp : (heedAll held earlier).1 = previous.1 := by simpa using List.find?_some found
      rcases lt_or_eq_of_le (above previous present update (by simp)) with later | same
      · -- nothing earlier has the new stamp
        have nowhere : earlier.find? (fun other => other.1 = update.1) = none := by
          apply List.find?_eq_none.mpr
          intro other member
          have below := lt_of_le_of_lt (le_last sorted before other member) later
          simpa using ne_of_lt below
        rw [nowhere, heed, if_pos (stamp ▸ later)]
        simp
      · rw [← same, found, heed, if_neg (by rw [stamp, same]; exact lt_irrefl _)]
        rfl

end MagicRouter.Library.Stamped
