import Mathlib.Data.List.AList
import Mathlib.Data.List.Induction

/-! Keyed stores and the two ways of folding a sequence of writes into one:
keeping the first value written since a key was last removed, which is what an
insertion that refuses an occupied key does, and keeping the last value. -/

namespace MagicRouter.Library

universe u v

/-- A finite store with at most one value per key. -/
abbrev Store (Key : Type u) (Value : Type v) := AList (fun _ : Key => Value)

namespace Store

variable {Key : Type u} {Value : Type v} [DecidableEq Key]
variable {store : Store Key Value} {key other : Key} {value : Value}

theorem lookup_insert_if (store : Store Key Value) (key other : Key) (value : Value) :
    (store.insert key value).lookup other = if other = key then some value else store.lookup other := by
  by_cases same : other = key
  · subst other
    simp
  · simp [same, AList.lookup_insert_ne]

theorem lookup_erase_if (store : Store Key Value) (key other : Key) :
    (store.erase key).lookup other = if other = key then none else store.lookup other := by
  by_cases same : other = key
  · subst other
    simp
  · simp [same, AList.lookup_erase_ne]

theorem mem_entries_iff : (⟨key, value⟩ : (_ : Key) × Value) ∈ store.entries ↔
    store.lookup key = some value :=
  (AList.mem_lookup_iff (s := store)).symm

/-- A store has one entry for a key at most: the one that is looked up. -/
theorem filter_entries (store : Store Key Value) (key : Key) :
    (store.entries.filter fun entry => entry.1 = key) =
      ((store.lookup key).map (Sigma.mk key)).toList := by
  obtain ⟨entries, unique⟩ := store
  change entries.filter _ = ((List.dlookup key entries).map (Sigma.mk key)).toList
  induction entries with
  | nil => rfl
  | cons entry rest ih =>
    obtain ⟨first, value⟩ := entry
    obtain ⟨absent, unique⟩ := List.nodupKeys_cons.mp unique
    rw [List.filter_cons]
    by_cases here : first = key
    · subst here
      have nowhere : (rest.filter fun entry => entry.1 = first) = [] := by
        rw [ih unique, List.dlookup_eq_none.mpr absent]
        rfl
      simp [nowhere]
    · have elsewhere : key ≠ first := Ne.symm here
      rw [List.dlookup_cons_ne _ _ elsewhere, ← ih unique]
      simp [here]

theorem countP_entries (store : Store Key Value) (key : Key) (p : Value → Bool) :
    store.entries.countP (fun entry => decide (entry.1 = key) && p entry.2) =
      if (store.lookup key).any p then 1 else 0 := by
  simp only [Bool.and_comm _ (p _)]
  rw [← List.countP_filter, filter_entries]
  cases store.lookup key with
  | none => rfl
  | some value => simp [List.countP_singleton]

/-- Insertion that leaves an occupied key as it is. -/
def insertNew (store : Store Key Value) (key : Key) (value : Value) : Store Key Value :=
  if key ∈ store then store else store.insert key value

theorem lookup_insertNew (store : Store Key Value) (key other : Key) (value : Value) :
    (store.insertNew key value).lookup other =
      if other = key then (store.lookup key).or (some value) else store.lookup other := by
  unfold insertNew
  split
  · rename_i occupied
    obtain ⟨old, found⟩ := Option.isSome_iff_exists.mp (AList.lookup_isSome.mpr occupied)
    by_cases same : other = key
    · subst other
      simp [found]
    · simp [same]
  · rename_i vacant
    rw [lookup_insert_if, AList.lookup_eq_none.mpr vacant]
    simp

theorem held_of_insertNew {held : Value}
    (found : (store.insertNew key value).lookup other = some held) :
    store.lookup other = some held ∨ other = key ∧ held = value := by
  rw [lookup_insertNew] at found
  split at found
  · rename_i same
    subst other
    cases old : store.lookup key with
    | none => exact .inr ⟨rfl, by simpa [old, eq_comm] using found⟩
    | some previous => exact .inl (by simpa [old] using found)
  · exact .inl found

theorem exists_insertNew (value : Value) (held : (store.lookup other).isSome = true ∨ other = key) :
    ∃ held, (store.insertNew key value).lookup other = some held := by
  apply Option.isSome_iff_exists.mp
  rw [lookup_insertNew]
  split
  · simp
  · exact held.resolve_right ‹_›

/-- Append to the list under a key, starting one where there is none. -/
def push (store : Store Key (List Value)) (key : Key) (value : Value) : Store Key (List Value) :=
  store.insert key ((store.lookup key).getD [] ++ [value])

theorem lookup_push (store : Store Key (List Value)) (key other : Key) (value : Value) :
    (store.push key value).lookup other =
      if other = key then some ((store.lookup key).getD [] ++ [value]) else store.lookup other :=
  lookup_insert_if ..

/-- The key a bounded store gives up when `key` is put into it: none when `key` is
there already, otherwise possibly another key it holds. -/
def givenUp (store : Store Key Value) (key : Key) (evicted : Option Key) : Option Key :=
  if key ∈ store then none else evicted.filter (· ∈ store)

/-- Insertion into a bounded store that leaves an occupied key as it is and may make
room for a new one. -/
def insertEvicting (store : Store Key Value) (key : Key) (value : Value) (evicted : Option Key) :
    Store Key Value :=
  match store.givenUp key evicted with
  | none => store.insertNew key value
  | some victim => insertNew (store.erase victim) key value

theorem givenUp_ne {evicted : Option Key} {victim : Key}
    (given : store.givenUp key evicted = some victim) : victim ≠ key := by
  rintro rfl
  unfold givenUp at given
  split at given
  · cases given
  · rename_i vacant
    exact vacant (by simpa using (Option.filter_eq_some_iff.mp given).2)

theorem lookup_insertEvicting (store : Store Key Value) (key other : Key) (value : Value)
    (evicted : Option Key) :
    (store.insertEvicting key value evicted).lookup other =
      if store.givenUp key evicted = some other then none
      else if other = key then (store.lookup key).or (some value) else store.lookup other := by
  unfold insertEvicting
  cases given : store.givenUp key evicted with
  | none => simp [lookup_insertNew]
  | some victim =>
    have different := givenUp_ne given
    simp only [lookup_insertNew, lookup_erase_if, different.symm, if_false, Option.some.injEq]
    by_cases same : other = key
    · simp [same, different]
    · simp [same, eq_comm]

theorem held_of_insertEvicting {held : Value} {evicted : Option Key}
    (found : (store.insertEvicting key value evicted).lookup other = some held) :
    store.lookup other = some held ∨ held = value := by
  rw [lookup_insertEvicting] at found
  split at found
  · cases found
  · split at found
    · rename_i same
      subst same
      cases old : store.lookup other with
      | none => exact .inr (by simpa [old, eq_comm] using found)
      | some previous => exact .inl (by simpa [old] using found)
    · exact .inl found

end Store

/-- One write of a key-value history. -/
inductive Write (Key : Type u) (Value : Type v) where
  | put (key : Key) (value : Value)
  | remove (key : Key)

namespace Write

variable {Key : Type u} {Value : Type v} [DecidableEq Key]

/-- Effect of one write on the value a refusing store holds under `key`. -/
def keepFirst (key : Key) (held : Option Value) : Write Key Value → Option Value
  | .put written value => if written = key then held.or (some value) else held
  | .remove removed => if removed = key then none else held

/-- Effect of one write on the value an overwriting store holds under `key`. -/
def keepLast (key : Key) (held : Option Value) : Write Key Value → Option Value
  | .put written value => if written = key then some value else held
  | .remove removed => if removed = key then none else held

/-- The first value written under `key` since it was last removed. -/
def first (key : Key) (writes : List (Write Key Value)) : Option Value :=
  writes.foldl (keepFirst key) none

/-- The last value written under `key`, if it was not removed afterwards. -/
def last (key : Key) (writes : List (Write Key Value)) : Option Value :=
  writes.foldl (keepLast key) none

variable {key : Key} {writes : List (Write Key Value)} {write : Write Key Value}

@[simp] theorem first_nil : first key ([] : List (Write Key Value)) = none := rfl

@[simp] theorem last_nil : last key ([] : List (Write Key Value)) = none := rfl

theorem first_snoc : first key (writes ++ [write]) = keepFirst key (first key writes) write := by
  simp [first]

theorem last_snoc : last key (writes ++ [write]) = keepLast key (last key writes) write := by
  simp [last]

/-- Both folds hold a value under exactly the same keys. -/
theorem first_isSome_iff_last_isSome (key : Key) (writes : List (Write Key Value)) :
    (first key writes).isSome ↔ (last key writes).isSome := by
  induction writes using List.reverseRecOn with
  | nil => simp
  | append_singleton earlier write ih =>
    rw [first_snoc, last_snoc]
    cases write with
    | put written value =>
      by_cases same : written = key
      · simp [keepFirst, keepLast, same]
      · simpa [keepFirst, keepLast, same] using ih
    | remove removed =>
      by_cases same : removed = key
      · simp [keepFirst, keepLast, same]
      · simpa [keepFirst, keepLast, same] using ih

/-- Every value either fold holds was written under that key. -/
theorem mem_of_first {value : Value} (held : first key writes = some value) :
    .put key value ∈ writes := by
  induction writes using List.reverseRecOn with
  | nil => simp at held
  | append_singleton earlier write ih =>
    rw [first_snoc] at held
    cases write with
    | put written fresh =>
      by_cases same : written = key
      · subst written
        cases old : first key earlier with
        | none => simp_all [keepFirst]
        | some previous => simp_all [keepFirst]
      · simp_all [keepFirst]
    | remove removed =>
      by_cases same : removed = key <;> simp_all [keepFirst]

theorem mem_of_last {value : Value} (held : last key writes = some value) :
    .put key value ∈ writes := by
  induction writes using List.reverseRecOn with
  | nil => simp at held
  | append_singleton earlier write ih =>
    rw [last_snoc] at held
    cases write with
    | put written fresh =>
      by_cases same : written = key <;> simp_all [keepLast]
    | remove removed =>
      by_cases same : removed = key <;> simp_all [keepLast]

end Write

/-- Where extending a good list by one item gives a good list exactly if the item is
allowed, a list is good after each of its items exactly if all of them are allowed. -/
theorem forall_extension_iff {Item : Type u} {Good : List Item → Prop}
    {Allowed : List Item → Item → Prop} {items : List Item} (empty : Good [])
    (decides : ∀ earlier item later, items = earlier ++ item :: later → Good earlier →
      (Good (earlier ++ [item]) ↔ Allowed earlier item)) :
    (∀ earlier later, items = earlier ++ later → Good earlier) ↔
      ∀ earlier item later, items = earlier ++ item :: later → Allowed earlier item := by
  constructor
  · intro good earlier item later same
    have before := good earlier (item :: later) same
    exact (decides earlier item later same before).mp (good (earlier ++ [item]) later (by simp [same]))
  · intro allowed earlier
    induction earlier using List.reverseRecOn with
    | nil => exact fun _ _ => empty
    | append_singleton earlier item ih =>
      intro later same
      have here : items = earlier ++ item :: later := by simp [same]
      exact (decides earlier item later here (ih _ here)).mpr (allowed earlier item later here)

end MagicRouter.Library
