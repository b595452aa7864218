import DigMerkle.Library.Fallible

namespace DigMerkle.Library.Fallible

/-- From this state a computation returns only what `returns` allows, and refuses only
with an error that `refuses` allows. -/
structure Ends (action : Fallible ε σ α) (state : σ) (returns : α → σ → Prop) (refuses : ε → Prop) : Prop where
  returned : ∀ {value after}, action state = (.ok value, after) → returns value after
  refused : ∀ {error after}, action state = (.error error, after) → refuses error

section Rules

variable {returns : α → σ → Prop} {refuses : ε → Prop} {state : σ}

theorem ends_pure {value : α} (holds : returns value state) :
    Ends (pure value : Fallible ε σ α) state returns refuses where
  returned success := by
    cases success
    exact holds
  refused failure := by cases failure

theorem ends_ofExcept {result : Except ε α} (holds : ∀ {value}, result = .ok value → returns value state)
    (allowed : ∀ {error}, result = .error error → refuses error) :
    Ends (ofExcept result : Fallible ε σ α) state returns refuses where
  returned success := by
    cases success
    exact holds rfl
  refused failure := by
    cases failure
    exact allowed rfl

theorem ends_of_returned {action : Fallible ε σ α} {value : α} {after : σ} (known : action state = (.ok value, after))
    (holds : returns value after) : Ends action state returns refuses where
  returned success := by
    cases known.symm.trans success
    exact holds
  refused failure := by cases known.symm.trans failure

theorem ends_of_ok {action : Fallible ε σ α} {next : α → Fallible ε σ β} {value : α} {middle : σ}
    {returns : β → σ → Prop} (first : action state = (.ok value, middle))
    (rest : Ends (next value) middle returns refuses) : Ends (action >>= next) state returns refuses where
  returned success := rest.returned ((bind_of_ok next first).symm.trans success)
  refused failure := rest.refused ((bind_of_ok next first).symm.trans failure)

/-- The sequence rule: the first half's postcondition is the second half's precondition,
and both refuse alike. -/
theorem Ends.bind {action : Fallible ε σ α} {next : α → Fallible ε σ β} {between : α → σ → Prop}
    {returns : β → σ → Prop} (first : Ends action state between refuses)
    (rest : ∀ {value after}, between value after → Ends (next value) after returns refuses) :
    Ends (action >>= next) state returns refuses := by
  cases step : action state with
  | mk outcome middle =>
    cases outcome with
    | ok value => exact ends_of_ok step (rest (first.returned step))
    | error error =>
      constructor
      · intro result after success
        rw [bind_apply, step] at success
        cases success
      · intro other after failure
        rw [bind_apply, step] at failure
        cases failure
        exact first.refused step

theorem Ends.known {action : Fallible ε σ α} (ends : Ends action state returns refuses) :
    Ends action state (fun value after => action state = (.ok value, after)) refuses :=
  ⟨id, ends.refused⟩

/-- The rule of consequence, for refusals. -/
theorem Ends.allow {action : Fallible ε σ α} {refuses' : ε → Prop} (ends : Ends action state returns refuses)
    (allowed : ∀ {error}, refuses error → refuses' error) : Ends action state returns refuses' :=
  ⟨ends.returned, fun failure => allowed (ends.refused failure)⟩

theorem Ends.mapError {action : Fallible ε σ α} {wrap : ε → ε'} {refuses : ε' → Prop}
    (ends : Ends action state returns (refuses ∘ wrap)) :
    Ends (Fallible.mapError wrap action) state returns refuses where
  returned success := ends.returned (mapError_eq_ok.mp success)
  refused failure := by
    unfold Fallible.mapError at failure
    cases step : action state with
    | mk outcome middle =>
      rw [step] at failure
      cases outcome with
      | ok value => cases failure
      | error error =>
        cases failure
        exact ends.refused step

theorem Ends.onPart {get : σ → τ} {set : τ → σ → σ} {action : Fallible ε τ α}
    (ends : Ends action (get state) (fun value part => returns value (set part state)) refuses) :
    Ends (Fallible.onPart get set action) state returns refuses where
  returned success := by
    obtain ⟨part, step, rfl⟩ := onPart_eq_ok.mp success
    exact ends.returned step
  refused failure := by
    unfold Fallible.onPart at failure
    cases step : action (get state) with
    | mk outcome part =>
      rw [step] at failure
      cases failure
      exact ends.refused step

end Rules

end DigMerkle.Library.Fallible
