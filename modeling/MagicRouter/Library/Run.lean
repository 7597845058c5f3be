import Mathlib.Data.List.Induction

/-! Finite runs of a labelled transition relation, with the rules that carry a
one-step fact to a whole run. Nothing here depends on a particular system. -/

namespace MagicRouter.Library

universe u v u' v' w'

/-- A finite run, labelled by its actions in the order taken. -/
inductive Run {State : Type u} {Action : Type v} (Step : State → Action → State → Prop) :
    State → List Action → State → Prop where
  | nil : Run Step s [] s
  | snoc (earlier : Run Step s actions t) (last : Step t action w) :
      Run Step s (actions ++ [action]) w

variable {State : Type u} {Action : Type v} {Step Step' : State → Action → State → Prop}
variable {s t w : State} {action : Action} {actions actions' : List Action}

namespace Run

theorem single (step : Step s action t) : Run Step s [action] t :=
  .snoc .nil step

theorem append (first : Run Step s actions t) (second : Run Step t actions' w) :
    Run Step s (actions ++ actions') w := by
  induction second with
  | nil => simpa using first
  | snoc earlier last ih =>
    rw [← List.append_assoc]
    exact .snoc ih last

theorem cons (step : Step s action t) (rest : Run Step t actions w) :
    Run Step s (action :: actions) w := by
  simpa using (single step).append rest

theorem of_nil (run : Run Step s [] t) : s = t := by
  generalize empty : ([] : List Action) = actions at run
  cases run with
  | nil => rfl
  | snoc _ _ => simp at empty

/-- Every run ending in a given action passes through the state before it. -/
theorem of_snoc (run : Run Step s (actions ++ [action]) w) :
    ∃ t, Run Step s actions t ∧ Step t action w := by
  generalize same : actions ++ [action] = labels at run
  cases run with
  | nil => simp at same
  | snoc earlier last =>
    obtain ⟨rfl, tail⟩ := List.append_inj' same rfl
    cases tail
    exact ⟨_, earlier, last⟩

/-- A run over a concatenation passes through an intermediate state. -/
theorem split (run : Run Step s (actions ++ actions') w) :
    ∃ t, Run Step s actions t ∧ Run Step t actions' w := by
  induction actions' using List.reverseRecOn generalizing w with
  | nil => exact ⟨w, by simpa using run, .nil⟩
  | append_singleton rest action ih =>
    rw [← List.append_assoc] at run
    obtain ⟨before, earlier, last⟩ := run.of_snoc
    obtain ⟨middle, first, second⟩ := ih earlier
    exact ⟨middle, first, .snoc second last⟩

theorem of_cons (run : Run Step s (action :: actions) w) :
    ∃ t, Step s action t ∧ Run Step t actions w := by
  induction actions using List.reverseRecOn generalizing w with
  | nil =>
    obtain ⟨before, earlier, last⟩ := of_snoc (show Run Step s ([] ++ [action]) w from run)
    cases earlier.of_nil
    exact ⟨w, last, .nil⟩
  | append_singleton rest final ih =>
    obtain ⟨before, earlier, last⟩ := of_snoc (show Run Step s ((action :: rest) ++ [final]) w from run)
    obtain ⟨t, first, middle⟩ := ih earlier
    exact ⟨t, first, .snoc middle last⟩

theorem mono (weaken : ∀ s action t, Step s action t → Step' s action t)
    (run : Run Step s actions t) : Run Step' s actions t := by
  induction run with
  | nil => exact .nil
  | snoc _ last ih => exact .snoc ih (weaken _ _ _ last)

/-- A state property kept by every step holds after every run. -/
theorem invariant {Inv : State → Prop} (initial : Inv s)
    (keeps : ∀ s action t, Inv s → Step s action t → Inv t)
    (run : Run Step s actions t) : Inv t := by
  induction run with
  | nil => exact initial
  | snoc _ last ih => exact keeps _ _ _ ih last

/-- The same rule when only steps whose label satisfies `Allowed` keep the property. -/
theorem invariant_of_allowed {Inv : State → Prop} {Allowed : Action → Prop} (initial : Inv s)
    (keeps : ∀ s action t, Allowed action → Inv s → Step s action t → Inv t)
    (run : Run Step s actions t) (allowed : ∀ action ∈ actions, Allowed action) : Inv t := by
  induction run with
  | nil => exact initial
  | snoc _ last ih =>
    refine keeps _ _ _ (allowed _ (by simp)) (ih ?_) last
    exact fun action member => allowed action (by simp [member])

/-- A run seen through a view: where every step is seen as a run of another relation
with the same observations, the whole run is. -/
theorem project {State' : Type u'} {Action' : Type v'} {Observation : Type w'}
    {Below : State' → Action' → State' → Prop} (view : State → State')
    (observe : Action → List Observation) (observe' : Action' → List Observation)
    (seen : ∀ s action t, Step s action t → ∃ labels,
      Run Below (view s) labels (view t) ∧ labels.flatMap observe' = observe action)
    (run : Run Step s actions t) :
    ∃ labels, Run Below (view s) labels (view t) ∧
      labels.flatMap observe' = actions.flatMap observe := by
  induction run with
  | nil => exact ⟨[], .nil, rfl⟩
  | snoc _ last ih =>
    obtain ⟨labels, before, same⟩ := ih
    obtain ⟨more, after, here⟩ := seen _ _ _ last
    refine ⟨labels ++ more, before.append after, ?_⟩
    rw [List.flatMap_append, List.flatMap_append, same, here, List.flatMap_singleton]

end Run

/-- The steps of a relation that are taken in a state meeting a condition. -/
def Guarded (Condition : State → Action → Prop) (Step : State → Action → State → Prop) :
    State → Action → State → Prop :=
  fun s action t => Condition s action ∧ Step s action t

theorem Run.unguarded {Condition : State → Action → Prop}
    (run : Run (Guarded Condition Step) s actions t) : Run Step s actions t :=
  run.mono fun _ _ _ step => step.2

/-- A run whose actions meet the condition in every state. -/
theorem Run.guarded {Condition : State → Action → Prop} (run : Run Step s actions t)
    (allowed : ∀ action ∈ actions, ∀ s, Condition s action) :
    Run (Guarded Condition Step) s actions t := by
  induction run with
  | nil => exact .nil
  | @snoc actions t action w earlier last ih =>
    have before : ∀ action ∈ actions, ∀ s, Condition s action := by
      intro action member
      exact allowed action (List.mem_append_left _ member)
    exact .snoc (ih before) ⟨allowed action (by simp) t, last⟩

/-- The graph of a partial step function. -/
def Fires (step : State → Action → Option State) : State → Action → State → Prop :=
  fun s action t => step s action = some t

/-- Execute a list of actions; `none` as soon as one of them is not enabled. -/
def exec (step : State → Action → Option State) : State → List Action → Option State
  | s, [] => some s
  | s, action :: rest => (step s action).bind fun t => exec step t rest

theorem Run.of_exec {step : State → Action → Option State}
    (executed : exec step s actions = some t) : Run (Fires step) s actions t := by
  induction actions generalizing s with
  | nil =>
    cases executed
    exact .nil
  | cons action rest ih =>
    obtain ⟨middle, fired, executed⟩ := Option.bind_eq_some_iff.mp executed
    exact .cons fired (ih executed)

/-- Check a property of the state an action list leads to by evaluation. -/
theorem exists_run_of_exec {step : State → Action → Option State} {check : State → Bool}
    (executed : (exec step s actions).map check = some true) :
    ∃ t, Run (Fires step) s actions t ∧ check t = true := by
  obtain ⟨t, reached, checked⟩ := Option.map_eq_some_iff.mp executed
  exact ⟨t, .of_exec reached, checked⟩

/-- The part of a step function that a check lets through. -/
def checkedStep (check : State → Action → Bool) (step : State → Action → Option State) :
    State → Action → Option State :=
  fun s action => if check s action then step s action else none

theorem Run.guarded_of_checked {step : State → Action → Option State}
    {check : State → Action → Bool} {Condition : State → Action → Prop}
    (sound : ∀ s action, check s action = true → Condition s action)
    (run : Run (Fires (checkedStep check step)) s actions t) :
    Run (Guarded Condition (Fires step)) s actions t := by
  apply run.mono
  intro s action t fired
  by_cases checked : check s action = true
  · exact ⟨sound s action checked, by simpa [Fires, checkedStep, checked] using fired⟩
  · simp [Fires, checkedStep, checked] at fired

/-- The run passed through a state with the property, its endpoints included. -/
def Met (Step : State → Action → State → Prop) (P : State → Prop)
    (s : State) (actions : List Action) (t : State) : Prop :=
  ∃ before after middle, actions = before ++ after ∧
    Run Step s before middle ∧ Run Step middle after t ∧ P middle

namespace Met

variable {P Q : State → Prop}

theorem here (run : Run Step s actions t) (holds : P t) : Met Step P s actions t :=
  ⟨actions, [], t, by simp, run, .nil, holds⟩

theorem snoc (met : Met Step P s actions t) (step : Step t action w) :
    Met Step P s (actions ++ [action]) w := by
  obtain ⟨before, after, middle, rfl, first, second, holds⟩ := met
  exact ⟨before, after ++ [action], middle, by simp, first, .snoc second step, holds⟩

theorem imp (met : Met Step P s actions t) (weaken : ∀ state, P state → Q state) :
    Met Step Q s actions t := by
  obtain ⟨before, after, middle, same, first, second, holds⟩ := met
  exact ⟨before, after, middle, same, first, second, weaken _ holds⟩

end Met

section Deterministic

variable {step : State → Action → Option State} {P : State → Prop}

/-- A step function leads a list of actions to one state only. -/
theorem Run.fires_unique (first : Run (Fires step) s actions t)
    (second : Run (Fires step) s actions w) : t = w := by
  induction first generalizing w with
  | nil => exact second.of_nil
  | snoc _ last ih =>
    obtain ⟨before, earlier, last'⟩ := second.of_snoc
    cases ih earlier
    exact Option.some.inj (last.symm.trans last')

/-- The property holds in every state the run passes through, its endpoints included. -/
def Throughout (step : State → Action → Option State) (P : State → Prop) (s : State)
    (actions : List Action) : Prop :=
  ∀ before after middle, actions = before ++ after → Run (Fires step) s before middle → P middle

theorem throughout_nil : Throughout step P s [] ↔ P s := by
  constructor
  · intro holds
    exact holds [] [] s rfl .nil
  · intro here before after middle same run
    obtain ⟨rfl, _⟩ := List.append_eq_nil_iff.mp same.symm
    exact run.of_nil ▸ here

theorem throughout_snoc (run : Run (Fires step) s actions t) (last : step t action = some w) :
    Throughout step P s (actions ++ [action]) ↔ Throughout step P s actions ∧ P w := by
  constructor
  · intro holds
    refine ⟨?_, holds _ [] w (by simp) (.snoc run last)⟩
    intro before after middle same earlier
    exact holds before (after ++ [action]) middle (by simp [same]) earlier
  · rintro ⟨holds, here⟩ before after middle same earlier
    rcases List.eq_nil_or_concat after with rfl | ⟨rest, final, rfl⟩
    · rw [List.append_nil] at same
      exact (Run.snoc run last).fires_unique (same ▸ earlier) ▸ here
    · rw [List.concat_eq_append, ← List.append_assoc] at same
      obtain ⟨prefixes, _⟩ := List.append_inj' same rfl
      exact holds before rest middle prefixes earlier

theorem guarded_snoc_iff {Condition : State → Action → Prop} (run : Run (Fires step) s actions t)
    (last : step t action = some w) :
    Run (Guarded Condition (Fires step)) s (actions ++ [action]) w ↔
      Run (Guarded Condition (Fires step)) s actions t ∧ Condition t action := by
  constructor
  · intro guarded
    obtain ⟨middle, earlier, allowed, _⟩ := guarded.of_snoc
    cases run.fires_unique earlier.unguarded
    exact ⟨earlier, allowed⟩
  · rintro ⟨guarded, allowed⟩
    exact .snoc guarded ⟨allowed, last⟩

/-- Every step of the run is taken in a state where its action has the property. -/
def Always (step : State → Action → Option State) (C : State → Action → Prop) (s : State)
    (actions : List Action) : Prop :=
  ∀ before action after middle, actions = before ++ action :: after →
    Run (Fires step) s before middle → C middle action

theorem Run.always {C : State → Action → Prop} (run : Run (Guarded C (Fires step)) s actions t) :
    Always step C s actions := by
  intro before action after middle parts earlier
  subst parts
  obtain ⟨reached, first, rest⟩ := run.split
  obtain ⟨next, ⟨holds, _⟩, _⟩ := rest.of_cons
  exact first.unguarded.fires_unique earlier ▸ holds

/-- What holds wherever steps that meet a condition lead, holds all along them. -/
theorem Run.throughout {Condition : State → Action → Prop}
    (run : Run (Guarded Condition (Fires step)) s actions t)
    (reached : ∀ before middle, Run (Guarded Condition (Fires step)) s before middle → P middle) :
    Throughout step P s actions := by
  intro before after middle parts earlier
  subst parts
  obtain ⟨middle', first, _⟩ := run.split
  exact first.unguarded.fires_unique earlier ▸ reached before middle' first

/-- Properties that are equivalent in every state reached always hold together. -/
theorem always_congr {C D : State → Action → Prop} {Inv : State → Prop} (initial : Inv s)
    (keeps : ∀ s action t, Inv s → step s action = some t → Inv t)
    (same : ∀ s action t, Inv s → step s action = some t → (C s action ↔ D s action))
    (run : Run (Fires step) s actions t) : Always step C s actions ↔ Always step D s actions := by
  have here (before : List Action) (action : Action) (after : List Action) (middle : State)
      (parts : actions = before ++ action :: after) (earlier : Run (Fires step) s before middle) :
      C middle action ↔ D middle action := by
    subst parts
    obtain ⟨reached, first, rest⟩ := run.split
    cases first.fires_unique earlier
    obtain ⟨next, fired, _⟩ := rest.of_cons
    exact same middle action next (earlier.invariant initial keeps) fired
  constructor
  · intro holds before action after middle parts earlier
    exact (here before action after middle parts earlier).mp (holds _ _ _ _ parts earlier)
  · intro holds before action after middle parts earlier
    exact (here before action after middle parts earlier).mpr (holds _ _ _ _ parts earlier)

/-- Where a step from a good state leads to a good state exactly if it meets the
condition, a run is good throughout exactly if all its steps meet it. -/
theorem throughout_iff_guarded {Inv : State → Prop} {Allowed : Action → Prop}
    {Condition : State → Action → Prop} (initial : Inv s) (good : P s)
    (keeps : ∀ s action t, Allowed action → Inv s → step s action = some t → Inv t)
    (decides : ∀ s action t, Allowed action → Inv s → P s → step s action = some t →
      (P t ↔ Condition s action))
    (run : Run (Fires step) s actions t) (allowed : ∀ action ∈ actions, Allowed action) :
    Throughout step P s actions ↔ Run (Guarded Condition (Fires step)) s actions t := by
  induction run with
  | nil => exact ⟨fun _ => .nil, fun _ => throughout_nil.mpr good⟩
  | @snoc actions t action w earlier last ih =>
    have before : ∀ action ∈ actions, Allowed action := fun action member =>
      allowed action (List.mem_append_left _ member)
    have here : Allowed action := allowed action (by simp)
    have reached : Inv t := earlier.invariant_of_allowed initial keeps before
    rw [throughout_snoc earlier last, guarded_snoc_iff earlier last, ih before]
    apply and_congr_right
    intro guarded
    have holds : P t := (ih before).mpr guarded _ [] _ (by simp) earlier
    exact decides t action w here reached holds last

/-- The same where the first state may not be good. -/
theorem throughout_iff_good_and_guarded (Inv : State → Prop) {Allowed : Action → Prop}
    {Condition : State → Action → Prop} (initial : Inv s)
    (keeps : ∀ s action t, Allowed action → Inv s → step s action = some t → Inv t)
    (decides : ∀ s action t, Allowed action → Inv s → P s → step s action = some t →
      (P t ↔ Condition s action))
    (run : Run (Fires step) s actions t) (allowed : ∀ action ∈ actions, Allowed action) :
    Throughout step P s actions ↔ P s ∧ Run (Guarded Condition (Fires step)) s actions t := by
  constructor
  · intro holds
    have good : P s := holds [] actions s rfl .nil
    exact ⟨good, (throughout_iff_guarded initial good keeps decides run allowed).mp holds⟩
  · rintro ⟨good, guarded⟩
    exact (throughout_iff_guarded initial good keeps decides run allowed).mpr guarded

end Deterministic

end MagicRouter.Library
