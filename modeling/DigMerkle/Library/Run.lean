namespace DigMerkle.Library

variable {State Step : Type} (result : Step → State)

/-- Every step of a run stands in a relation to the state it starts from. -/
def EachStep (relates : State → Step → Prop) : State → List Step → Prop
  | _, [] => True
  | state, step :: steps => relates state step ∧ EachStep relates (result step) steps

variable {result}

/-- The invariant rule: what the first state has and every step preserves holds
before every step, so each step may be judged under it. -/
theorem EachStep.carry {relates shown : State → Step → Prop} (holds : State → Prop)
    (step : ∀ state step, holds state → relates state step → holds (result step) ∧ shown state step)
    {state : State} {steps : List Step} (initial : holds state) (run : EachStep result relates state steps) :
    EachStep result shown state steps := by
  induction steps generalizing state with
  | nil => trivial
  | cons taken steps ih =>
    obtain ⟨later, related⟩ := step state taken initial run.1
    exact ⟨related, ih later run.2⟩

theorem EachStep.and {relates other : State → Step → Prop} {state : State} {steps : List Step}
    (run : EachStep result relates state steps) (run' : EachStep result other state steps) :
    EachStep result (fun state step => relates state step ∧ other state step) state steps := by
  induction steps generalizing state with
  | nil => trivial
  | cons taken steps ih => exact ⟨⟨run.1, run'.1⟩, ih run.2 run'.2⟩

theorem eachStep_iff_forall {shown : Step → Prop} {state : State} {steps : List Step} :
    EachStep result (fun _ step => shown step) state steps ↔ ∀ step ∈ steps, shown step := by
  induction steps generalizing state with
  | nil => simp [EachStep]
  | cons taken steps ih => simp [EachStep, ih]

variable (result) in
/-- The state that a run leads to. -/
def finalState : State → List Step → State
  | state, [] => state
  | _, step :: steps => finalState (result step) steps

end DigMerkle.Library
