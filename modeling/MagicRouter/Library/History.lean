import Mathlib.Data.List.Basic

/-! Histories in which every item has a ground in what stands before it. Nothing here
depends on a particular system. -/

namespace MagicRouter.Library

universe u

/-- Every item is grounded in the past and the items before it. -/
def Grounded {Item : Type u} (Ground : List Item → Item → Prop) (past items : List Item) : Prop :=
  ∀ before item after, items = before ++ item :: after → Ground (past ++ before) item

namespace Grounded

variable {Item : Type u} {Ground : List Item → Item → Prop}
variable {past first second items : List Item} {item : Item}

theorem nil : Grounded Ground past [] := by
  intro before item after parts
  simp at parts

theorem append (one : Grounded Ground past first) (two : Grounded Ground (past ++ first) second) :
    Grounded Ground past (first ++ second) := by
  intro before item after parts
  rcases List.append_eq_append_iff.mp parts with ⟨gap, rfl, rest⟩ | ⟨gap, rest, same⟩
  · rw [← List.append_assoc]
    exact two gap item after rest
  · cases gap with
    | nil =>
      rw [List.append_nil] at rest
      subst rest
      have last := two [] item after same.symm
      rwa [List.append_nil] at last
    | cons head tail =>
      obtain ⟨rfl, rfl⟩ := List.cons_eq_cons.mp same
      exact one before item tail rest

theorem cons (head : Ground past item) (rest : Grounded Ground (past ++ [item]) items) :
    Grounded Ground past (item :: items) := by
  have alone : Grounded Ground past [item] := by
    intro before other after parts
    cases before with
    | nil =>
      cases parts
      rwa [List.append_nil]
    | cons _ _ => simp at parts
  exact alone.append rest

/-- Items of one kind in a row, each of which is grounded wherever it stands. -/
theorem of_kind {Kind : Item → Prop} (only : ∀ item ∈ items, Kind item)
    (grounds : ∀ before : List Item, (∀ item ∈ before, Kind item) →
      ∀ item ∈ items, Ground (past ++ before) item) : Grounded Ground past items := by
  intro before item after parts
  subst parts
  refine grounds before ?_ item (by simp)
  intro item member
  exact only item (List.mem_append_left _ member)

end Grounded

end MagicRouter.Library
