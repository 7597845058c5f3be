import Mathlib.Algebra.BigOperators.Group.List.Basic
import MagicRouter.Library.Store

/-! Sums over the entries of a store, and how they change when entries are put,
replaced and taken out. With multisets as the values summed this is bookkeeping:
what is in a store, with multiplicity. -/

namespace MagicRouter.Library.Store

universe u v w

variable {Key : Type u} {Value : Type v} {Amount : Type w} [DecidableEq Key] [AddCommMonoid Amount]
variable {store : Store Key Value} {key : Key} {value : Value} (weigh : Key → Value → Amount)

/-- The sum of the weights of all entries. -/
def tally (store : Store Key Value) : Amount :=
  (store.entries.map fun entry => weigh entry.1 entry.2).sum

omit [DecidableEq Key] in
@[simp] theorem tally_empty : tally weigh (∅ : Store Key Value) = 0 := rfl

theorem tally_insert : tally weigh (store.insert key value) =
    weigh key value + tally weigh (store.erase key) := by
  rw [tally, AList.entries_insert, List.map_cons, List.sum_cons]
  rfl

theorem erase_of_vacant (vacant : store.lookup key = none) : store.erase key = store :=
  AList.ext (List.kerase_of_notMem_keys (AList.lookup_eq_none.mp vacant))

theorem tally_of_lookup (found : store.lookup key = some value) :
    tally weigh store = weigh key value + tally weigh (store.erase key) := by
  have known : key ∈ store := AList.lookup_isSome.mp (found ▸ rfl)
  obtain ⟨value', before, after, _, split, rest⟩ := List.exists_of_kerase (AList.mem_keys.mp known)
  have same : store.lookup key = some value' := by
    rw [← mem_entries_iff, split]
    exact List.mem_append_right _ List.mem_cons_self
  cases found.symm.trans same
  have erased : (store.erase key).entries = before ++ after := rest
  simp only [tally, split, erased, List.map_append, List.map_cons, List.sum_append, List.sum_cons]
  exact add_left_comm _ _ _

/-- Taking several entries out, one after the other. -/
def eraseAll (store : Store Key Value) (keys : List Key) : Store Key Value :=
  keys.foldl (fun store key => store.erase key) store

theorem lookup_eraseAll (keys : List Key) (other : Key) :
    (store.eraseAll keys).lookup other = if other ∈ keys then none else store.lookup other := by
  induction keys generalizing store with
  | nil => simp [eraseAll]
  | cons key rest ih =>
    rw [eraseAll, List.foldl_cons, ← eraseAll, ih, lookup_erase_if]
    by_cases later : other ∈ rest
    · simp [later]
    · by_cases same : other = key <;> simp [later, same]

private theorem tally_eraseAll_entries (entries : List ((_ : Key) × Value))
    (distinct : (entries.map Sigma.fst).Nodup)
    (present : ∀ entry ∈ entries, store.lookup entry.1 = some entry.2) :
    tally weigh store = (entries.map fun entry => weigh entry.1 entry.2).sum +
      tally weigh (store.eraseAll (entries.map Sigma.fst)) := by
  induction entries generalizing store with
  | nil => simp [eraseAll]
  | cons entry rest ih =>
    obtain ⟨fresh, distinct⟩ := List.nodup_cons.mp distinct
    have still : ∀ other ∈ rest, (store.erase entry.1).lookup other.1 = some other.2 := by
      intro other member
      have different : other.1 ≠ entry.1 := fun same => fresh (same ▸ List.mem_map_of_mem member)
      rw [AList.lookup_erase_ne different]
      exact present other (List.mem_cons_of_mem _ member)
    rw [tally_of_lookup weigh (present entry List.mem_cons_self), ih distinct still]
    simp only [List.map_cons, List.sum_cons, add_assoc]
    rfl

/-- Taking out all entries whose key is selected. -/
theorem tally_eraseAll (selects : Key → Bool) :
    tally weigh store =
      ((store.entries.filter fun entry => selects entry.1).map fun entry =>
        weigh entry.1 entry.2).sum + tally weigh (store.eraseAll (store.keys.filter selects)) := by
  have keys : store.keys.filter selects =
      (store.entries.filter fun entry => selects entry.1).map Sigma.fst := List.filter_map
  rw [keys]
  refine tally_eraseAll_entries weigh _ ?_ ?_
  · rw [← keys]
    exact store.keys_nodup.filter _
  · intro entry member
    exact mem_entries_iff.mp (List.mem_of_mem_filter member)

variable {weigh} in
theorem tally_congr {weigh' : Key → Value → Amount}
    (same : ∀ key value, store.lookup key = some value → weigh key value = weigh' key value) :
    tally weigh store = tally weigh' store := by
  unfold tally
  congr 1
  apply List.map_congr_left
  intro entry member
  exact same entry.1 entry.2 (mem_entries_iff.mp member)

end MagicRouter.Library.Store
