import DigMerkle.Library.Fallible

/-! Computations that append to a log kept in their state. One that replays returns the same
value and appends the same entries wherever it succeeds, so it may be moved between states. -/

namespace DigMerkle.Library.Fallible

/-- Any two successes return one value and append the same entries. -/
def Replays (view : σ → List β) (action : Fallible ε σ α) : Prop :=
  ∀ ⦃state state' value value' after after'⦄, action state = (.ok value, after) →
    action state' = (.ok value', after') →
    value = value' ∧ ∃ entries, view after = view state ++ entries ∧ view after' = view state' ++ entries

theorem replays_ofExcept (view : σ → List β) (result : Except ε α) :
    Replays view (ofExcept result : Fallible ε σ α) := by
  intro state state' value value' after after' success success'
  obtain ⟨first, rfl⟩ := ofExcept_eq_ok.mp success
  obtain ⟨second, rfl⟩ := ofExcept_eq_ok.mp success'
  exact ⟨Except.ok.inj (first.symm.trans second), [], by simp⟩

theorem replays_pure (view : σ → List β) (value : α) : Replays view (pure value : Fallible ε σ α) :=
  replays_ofExcept view (.ok value)

theorem Replays.bind {view : σ → List β} {action : Fallible ε σ α} {next : α → Fallible ε σ γ}
    (first : Replays view action) (rest : ∀ value, Replays view (next value)) : Replays view (action >>= next) := by
  intro state state' value value' after after' success success'
  obtain ⟨middle, between, acted, finished⟩ := bind_eq_ok.mp success
  obtain ⟨middle', between', acted', finished'⟩ := bind_eq_ok.mp success'
  obtain ⟨rfl, early, grown, grown'⟩ := first acted acted'
  obtain ⟨same, late, added, added'⟩ := rest middle finished finished'
  refine ⟨same, early ++ late, ?_, ?_⟩
  · rw [added, grown, List.append_assoc]
  · rw [added', grown', List.append_assoc]

theorem Replays.mapError {view : σ → List β} {action : Fallible ε σ α} (replays : Replays view action)
    (wrap : ε → ε') : Replays view (mapError wrap action) := by
  intro state state' value value' after after' success success'
  exact replays (mapError_eq_ok.mp success) (mapError_eq_ok.mp success')

theorem Replays.onPart {view : σ → List β} {get : σ → τ} {set : τ → σ → σ} {action : Fallible ε τ α}
    (replays : Replays (fun _ => ([] : List β)) action) (apart : ∀ part state, view (set part state) = view state) :
    Replays view (onPart get set action) := by
  intro state state' value value' after after' success success'
  obtain ⟨part, acted, rfl⟩ := onPart_eq_ok.mp success
  obtain ⟨part', acted', rfl⟩ := onPart_eq_ok.mp success'
  exact ⟨(replays acted acted').1, [], by rw [apart, List.append_nil], by rw [apart, List.append_nil]⟩

/-- So does a check that leaves the log alone, whatever it reads. -/
theorem Keeps.replays [Subsingleton α] {view : σ → List β} {action : Fallible ε σ α} (keeps : Keeps view action) :
    Replays view action := by
  intro state state' value value' after after' success success'
  have kept := keeps state
  have kept' := keeps state'
  rw [success] at kept
  rw [success'] at kept'
  exact ⟨Subsingleton.elim _ _, [], by simpa using kept, by simpa using kept'⟩

section Order

variable {Call : Type} {act : Call → Fallible ε σ α} {view : σ → List β}

/-- What each call returns and appends, wherever it succeeds. -/
def Foresees (act : Call → Fallible ε σ α) (view : σ → List β) (outcome : Call → Option (α × List β)) : Prop :=
  ∀ call state value after, act call state = (.ok value, after) →
    ∃ entries, outcome call = some (value, entries) ∧ view after = view state ++ entries

theorem exists_foresees (replays : ∀ call, Replays view (act call)) : ∃ outcome, Foresees act view outcome := by
  classical
  have each : ∀ call, ∃ outcome : Option (α × List β), ∀ state value after, act call state = (.ok value, after) →
      ∃ entries, outcome = some (value, entries) ∧ view after = view state ++ entries := by
    intro call
    by_cases succeeds : ∃ state value after, act call state = (.ok value, after)
    · obtain ⟨state, value, after, success⟩ := succeeds
      obtain ⟨_, entries, added, _⟩ := replays call success success
      refine ⟨some (value, entries), fun state' value' after' success' => ?_⟩
      obtain ⟨rfl, entries', grown, grown'⟩ := replays call success success'
      have same : entries' = entries := List.append_cancel_left (grown.symm.trans added)
      exact ⟨entries, rfl, by rw [grown', same]⟩
    · exact ⟨none, fun state value after success => absurd ⟨state, value, after, success⟩ succeeds⟩
  exact ⟨fun call => (each call).choose, fun call => (each call).choose_spec⟩

/-- What a caught sequence returns and appends is that of its accepted calls, in order. -/
theorem Foresees.attemptAll {outcome : Call → Option (α × List β)} (foresees : Foresees act view outcome)
    {calls : List Call} {state : σ} (atomic : EachAttempt act (AtomicAt act view) calls state) :
    acceptedValues act calls state =
        (acceptedCalls act calls state).filterMap (fun call => (outcome call).map Prod.fst) ∧
    view (attemptAll act calls state).2 = view state ++
      (acceptedCalls act calls state).flatMap fun call => ((outcome call).map Prod.snd).getD [] := by
  induction calls generalizing state with
  | nil => simp [acceptedValues, acceptedCalls, Fallible.attemptAll]
  | cons call rest ih =>
    obtain ⟨first, later⟩ := atomic
    obtain ⟨values, grown⟩ := ih later
    cases success : act call state with
    | mk result after =>
      simp only [acceptedValues, acceptedCalls, Fallible.attemptAll, success] at values grown ⊢
      cases result with
      | ok value =>
        obtain ⟨entries, foreseen, added⟩ := foresees call state value after success
        simp only [List.filterMap_cons, List.flatMap_cons, foreseen, Option.map_some, Option.getD_some]
        exact ⟨by rw [values], by rw [grown, added, List.append_assoc]⟩
      | error error =>
        have kept := first error (by rw [success])
        rw [success] at kept
        exact ⟨values, by rw [grown, kept]⟩

/-- Two caught sequences, from any two states and in any order, that accept the same calls
return the same values and append the same entries, up to that order. -/
theorem attemptAll_perm (replays : ∀ call, Replays view (act call)) {calls calls' : List Call} {state state' : σ}
    (atomic : EachAttempt act (AtomicAt act view) calls state)
    (atomic' : EachAttempt act (AtomicAt act view) calls' state')
    (same : (acceptedCalls act calls state).Perm (acceptedCalls act calls' state')) :
    (acceptedValues act calls state).Perm (acceptedValues act calls' state') ∧
    ∃ entries entries', view (attemptAll act calls state).2 = view state ++ entries ∧
      view (attemptAll act calls' state').2 = view state' ++ entries' ∧ entries.Perm entries' := by
  obtain ⟨outcome, foresees⟩ := exists_foresees replays
  obtain ⟨values, grown⟩ := foresees.attemptAll atomic
  obtain ⟨values', grown'⟩ := foresees.attemptAll atomic'
  rw [values, values']
  exact ⟨same.filterMap _, _, _, grown, grown', same.flatMap_right _⟩

end Order

end DigMerkle.Library.Fallible
