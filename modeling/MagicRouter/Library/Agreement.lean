import Mathlib.Data.Set.Basic

/-! Agreement of a collection of votes. Whether all votes agree, and on what, is a
property of the set of votes: a fold that stops at the first conflict finds it in
any order and whatever the repetitions. -/

namespace MagicRouter.Library

universe u

/-- What a set of votes amounts to. -/
inductive Agreement (Vote : Type u) where
  | conflict
  | unanimous (vote : Vote)
  | silent

namespace Agreement

variable {Vote : Type u}

/-- The meaning of each outcome, in terms of the set of votes alone. -/
def Of (votes : Set Vote) : Agreement Vote → Prop
  | conflict => ∃ first ∈ votes, ∃ second ∈ votes, first ≠ second
  | unanimous vote => vote ∈ votes ∧ ∀ other ∈ votes, other = vote
  | silent => ∀ vote, vote ∉ votes

/-- Unanimous votes do not conflict. -/
theorem Of.not_conflict {votes : Set Vote} {vote : Vote} (agreed : (unanimous vote).Of votes) :
    ¬conflict.Of votes := by
  rintro ⟨first, cast, second, cast', different⟩
  exact different ((agreed.2 first cast).trans (agreed.2 second cast').symm)

/-- A set of votes has at most one outcome. -/
theorem Of.unique {votes : Set Vote} {first second : Agreement Vote} (one : Of votes first)
    (other : Of votes second) : first = second := by
  cases first with
  | conflict =>
    cases second with
    | conflict => rfl
    | unanimous vote => exact absurd one other.not_conflict
    | silent =>
      obtain ⟨first, cast, _⟩ := one
      exact absurd cast (other first)
  | unanimous vote =>
    cases second with
    | conflict => exact absurd other one.not_conflict
    | unanimous vote' => rw [other.2 vote one.1]
    | silent => exact absurd one.1 (other vote)
  | silent =>
    cases second with
    | conflict =>
      obtain ⟨a, cast, _⟩ := other
      exact absurd cast (one a)
    | unanimous vote => exact absurd other.1 (one vote)
    | silent => rfl

variable [DecidableEq Vote]

/-- Count votes one by one, abstentions skipped, up to the first conflict. -/
def count (held : Option Vote) : List (Option Vote) → Agreement Vote
  | [] => match held with
    | none => silent
    | some vote => unanimous vote
  | none :: rest => count held rest
  | some vote :: rest => match held with
    | none => count (some vote) rest
    | some old => if old ≠ vote then conflict else count (some vote) rest

/-- The fold finds the outcome of the votes cast and the one already held. -/
theorem count_of (held : Option Vote) (votes : List (Option Vote)) :
    Of {vote | held = some vote ∨ some vote ∈ votes} (count held votes) := by
  induction votes generalizing held with
  | nil =>
    cases held with
    | none => simp [count, Of]
    | some vote => simp [count, Of]
  | cons cast rest ih =>
    cases cast with
    | none => simpa [count] using ih held
    | some vote =>
      cases held with
      | none => simpa [count, eq_comm] using ih (some vote)
      | some old =>
        by_cases same : old = vote
        · subst same
          have merged : {vote | some old = some vote ∨ some vote ∈ some old :: rest} =
              {vote | some old = some vote ∨ some vote ∈ rest} := by
            ext vote
            simp [eq_comm]
          rw [merged]
          simpa [count] using ih (some old)
        · simp only [count, ne_eq, same, not_false_eq_true, if_true]
          exact ⟨old, .inl rfl, vote, .inr List.mem_cons_self, same⟩

end Agreement

end MagicRouter.Library
