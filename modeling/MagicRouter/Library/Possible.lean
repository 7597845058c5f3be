import MagicRouter.Library.Run

/-! What can be brought about from a state, and how such possibilities are put together.
Nothing here depends on a particular system. -/

namespace MagicRouter.Library

universe u v

variable {State : Type u} {Action : Type v} {Step Step' : State → Action → State → Prop}
variable {s t : State} {action : Action} {actions : List Action} {goal middle : State → Prop}

/-- Some run leads to the goal. -/
def Possible (Step : State → Action → State → Prop) (goal : State → Prop) (s : State) : Prop :=
  ∃ actions t, Run Step s actions t ∧ goal t

namespace Possible

theorem now (met : goal s) : Possible Step goal s :=
  ⟨[], s, .nil, met⟩

/-- What is possible after a run is possible before it. -/
theorem before (run : Run Step s actions t) (rest : Possible Step goal t) :
    Possible Step goal s := by
  obtain ⟨later, w, more, met⟩ := rest
  exact ⟨actions ++ later, w, run.append more, met⟩

theorem step (first : Step s action t) (rest : Possible Step goal t) : Possible Step goal s :=
  rest.before (.single first)

/-- One goal is reached on the way to another. -/
theorem next (first : Possible Step middle s)
    (rest : ∀ actions t, Run Step s actions t → middle t → Possible Step goal t) :
    Possible Step goal s := by
  obtain ⟨actions, t, run, met⟩ := first
  exact (rest actions t run met).before run

theorem mono (possible : Possible Step middle s)
    (more : ∀ s action t, Step s action t → Step' s action t)
    (weaker : ∀ t, middle t → goal t) : Possible Step' goal s := by
  obtain ⟨actions, t, run, met⟩ := possible
  exact ⟨actions, t, run.mono more, weaker t met⟩

/-- Goals that are met one after another, none of which is lost again, are met together. -/
theorem all {Index : Type*} (goals : Index → State → Prop) (Inv : State → Prop)
    (keeps : ∀ s action t, Inv s → Step s action t → Inv t)
    (stays : ∀ s action t, Inv s → Step s action t → ∀ index, goals index s → goals index t)
    (each : ∀ s, Inv s → ∀ index, Possible Step (goals index) s) (inv : Inv s)
    (indices : List Index) : Possible Step (fun t => ∀ index ∈ indices, goals index t) s := by
  induction indices with
  | nil => exact .now fun _ member => absurd member List.not_mem_nil
  | cons index rest ih =>
    refine ih.next ?_
    intro actions t run met
    have after : Inv t := run.invariant inv keeps
    refine (each t after index).next ?_
    intro actions w more here
    -- what was met before is kept on the way to the next goal
    have kept : Inv w ∧ ∀ other ∈ rest, goals other w := by
      clear here
      induction more with
      | nil => exact ⟨after, met⟩
      | snoc _ last ih =>
        obtain ⟨inv, kept⟩ := ih
        exact ⟨keeps _ _ _ inv last, fun other member =>
          stays _ _ _ inv last other (kept other member)⟩
    exact .now (List.forall_mem_cons.mpr ⟨here, kept.2⟩)

end Possible

end MagicRouter.Library
