import Mathlib.Data.List.Basic

/-! Computations that may fail and keep the state they had reached when they
do, as a fallible call through a mutable borrow does, and sequences of such
calls whose caller catches every failure. -/

namespace DigMerkle.Library

theorem except_bind_eq_ok {first : Except ε α} {next : α → Except ε β} {result : β} :
    (first >>= next) = .ok result ↔ ∃ value, first = .ok value ∧ next value = .ok result := by
  cases first with
  | error error => simp [bind, Except.bind]
  | ok value => simp [bind, Except.bind]

@[simp] theorem except_mapError_eq_ok {result : Except ε α} {wrap : ε → ε'} {value : α} :
    result.mapError wrap = .ok value ↔ result = .ok value := by
  cases result <;> simp [Except.mapError]

@[simp] theorem except_pure_eq_ok {value result : α} :
    (pure value : Except ε α) = .ok result ↔ value = result := by
  simp [pure, Except.pure]

theorem except_map_eq_ok {result : Except ε α} {change : α → β} {value : β} :
    result.map change = .ok value ↔ ∃ found, result = .ok found ∧ change found = value := by
  cases result <;> simp [Except.map]

theorem except_isOk_iff {result : Except ε α} : result.isOk = true ↔ ∃ value, result = .ok value := by
  cases result <;> simp [Except.isOk, Except.toBool]

theorem except_toOption_decide {result : Except ε α} {holds : α → Prop} [DecidablePred holds] :
    result.toOption.map (fun value => decide (holds value)) = some false ↔
      ∃ value, result = .ok value ∧ ¬ holds value := by
  cases result <;> simp [Except.toOption]

/-- The result is a failure. -/
def Fails (result : Except ε α) : Prop := ∃ error, result = .error error

@[simp] theorem fails_error (error : ε) : Fails (.error error : Except ε α) := ⟨error, rfl⟩

@[simp] theorem not_fails_ok (value : α) : ¬ Fails (.ok value : Except ε α) := by
  intro failed
  rcases failed with ⟨error, same⟩
  cases same

theorem isOk_eq_false {result : Except ε α} : result.isOk = false ↔ Fails result := by
  cases result <;> simp [Except.isOk, Except.toBool]

theorem not_fails_iff {result : Except ε α} : ¬ Fails result ↔ ∃ value, result = .ok value := by
  cases result <;> simp

@[simp] theorem fails_mapError {result : Except ε α} {wrap : ε → ε'} :
    Fails (result.mapError wrap) ↔ Fails result := by
  cases result <;> simp [Except.mapError]

theorem fails_bind {first : Except ε α} {next : α → Except ε β} :
    Fails (first >>= next) ↔ Fails first ∨ ∃ value, first = .ok value ∧ Fails (next value) := by
  cases first with
  | error error => simp [bind, Except.bind]
  | ok value => simp [bind, Except.bind]

/-- A fallible computation over a state. A failure does not roll the state back. -/
def Fallible (ε σ α : Type) : Type := σ → Except ε α × σ

namespace Fallible

instance : Monad (Fallible ε σ) where
  pure value := fun state => (.ok value, state)
  bind action next := fun state =>
    match action state with
    | (.ok value, after) => next value after
    | (.error error, after) => (.error error, after)

def fail (error : ε) : Fallible ε σ α := fun state => (.error error, state)

/-- A fallible value that does not look at the state. -/
def ofExcept (result : Except ε α) : Fallible ε σ α := fun state => (result, state)

def mapError (wrap : ε → ε') (action : Fallible ε σ α) : Fallible ε' σ α := fun state =>
  ((action state).1.mapError wrap, (action state).2)

/-- Run a computation on one part of a larger state. -/
def onPart (get : σ → τ) (set : τ → σ → σ) (action : Fallible ε τ α) : Fallible ε σ α := fun state =>
  ((action (get state)).1, set (action (get state)).2 state)

def read (view : σ → α) : Fallible ε σ α := fun state => (.ok (view state), state)

@[simp] theorem pure_apply (value : α) (state : σ) :
    (pure value : Fallible ε σ α) state = (.ok value, state) := rfl

theorem bind_apply (action : Fallible ε σ α) (next : α → Fallible ε σ β) (state : σ) :
    (action >>= next) state = match action state with
      | (.ok value, after) => next value after
      | (.error error, after) => (.error error, after) := rfl

@[simp] theorem fail_apply (error : ε) (state : σ) :
    (fail error : Fallible ε σ α) state = (.error error, state) := rfl

@[simp] theorem ofExcept_apply (result : Except ε α) (state : σ) :
    (ofExcept result : Fallible ε σ α) state = (result, state) := rfl

@[simp] theorem read_apply (view : σ → α) (state : σ) :
    (read view : Fallible ε σ α) state = (.ok (view state), state) := rfl

theorem exists_after {action : Fallible ε σ α} {state : σ} {value : α} (success : (action state).1 = .ok value) :
    ∃ after, action state = (.ok value, after) := ⟨_, Prod.ext success rfl⟩

/-- A sequence succeeds exactly when both halves do. -/
theorem bind_eq_ok {action : Fallible ε σ α} {next : α → Fallible ε σ β} {state after : σ} {result : β} :
    (action >>= next) state = (.ok result, after) ↔
      ∃ value middle, action state = (.ok value, middle) ∧ next value middle = (.ok result, after) := by
  rw [bind_apply]
  constructor
  · intro success
    split at success
    · rename_i value middle first
      exact ⟨value, middle, first, success⟩
    · simp at success
  · intro halves
    rcases halves with ⟨value, middle, first, second⟩
    rw [first]
    exact second

theorem bind_of_ok {action : Fallible ε σ α} (next : α → Fallible ε σ β) {state middle : σ} {value : α}
    (first : action state = (.ok value, middle)) : (action >>= next) state = next value middle := by
  rw [bind_apply, first]

theorem mapError_eq_ok {action : Fallible ε σ α} {wrap : ε → ε'} {state after : σ} {value : α} :
    mapError wrap action state = (.ok value, after) ↔ action state = (.ok value, after) := by
  unfold mapError
  cases step : action state with
  | mk outcome middle => cases outcome <;> simp [Except.mapError]

theorem onPart_eq_ok {get : σ → τ} {set : τ → σ → σ} {action : Fallible ε τ α} {state after : σ}
    {value : α} :
    onPart get set action state = (.ok value, after) ↔
      ∃ part, action (get state) = (.ok value, part) ∧ after = set part state := by
  unfold onPart
  cases step : action (get state) with
  | mk outcome part =>
    constructor
    · intro success
      obtain ⟨same, settled⟩ := Prod.mk.inj success
      exact ⟨part, by rw [show outcome = .ok value from same], settled.symm⟩
    · intro finished
      rcases finished with ⟨other, same, settled⟩
      cases same
      subst after
      rfl

@[simp] theorem ofExcept_eq_ok {result : Except ε α} {state after : σ} {value : α} :
    ofExcept result state = (.ok value, after) ↔ result = .ok value ∧ state = after := by
  simp [ofExcept]

@[simp] theorem pure_eq_ok {state after : σ} {value result : α} :
    (pure value : Fallible ε σ α) state = (.ok result, after) ↔ value = result ∧ state = after := by
  simp

/-- Whatever its outcome, a computation leaves what `view` sees unchanged. -/
def Keeps (view : σ → τ) (action : Fallible ε σ α) : Prop := ∀ state, view (action state).2 = view state

theorem keeps_pure (view : σ → τ) (value : α) : Keeps view (pure value : Fallible ε σ α) := fun _ => rfl

theorem keeps_fail (view : σ → τ) (error : ε) : Keeps view (fail error : Fallible ε σ α) := fun _ => rfl

theorem keeps_ofExcept (view : σ → τ) (result : Except ε α) :
    Keeps view (ofExcept result : Fallible ε σ α) := fun _ => rfl

theorem keeps_read (view : σ → τ) (read : σ → α) : Keeps view (Fallible.read read : Fallible ε σ α) := fun _ => rfl

theorem Keeps.bind {view : σ → τ} {action : Fallible ε σ α} {next : α → Fallible ε σ β}
    (first : Keeps view action) (rest : ∀ value, Keeps view (next value)) : Keeps view (action >>= next) := by
  intro state
  rw [bind_apply]
  have kept := first state
  cases step : action state with
  | mk outcome middle =>
    rw [step] at kept
    cases outcome with
    | ok value => exact (rest value middle).trans kept
    | error error => exact kept

/-- A computation that neither reads nor changes the state. -/
def Stateless (action : Fallible ε σ α) : Prop := ∃ outcome, action = ofExcept outcome

theorem stateless_pure (value : α) : Stateless (pure value : Fallible ε σ α) := ⟨.ok value, rfl⟩

theorem stateless_ofExcept (result : Except ε α) : Stateless (ofExcept result : Fallible ε σ α) := ⟨result, rfl⟩

theorem Stateless.bind {action : Fallible ε σ α} {next : α → Fallible ε σ β} (first : Stateless action)
    (rest : ∀ value, Stateless (next value)) : Stateless (action >>= next) := by
  obtain ⟨outcome, rfl⟩ := first
  cases outcome with
  | error error => exact ⟨.error error, rfl⟩
  | ok value =>
    obtain ⟨final, same⟩ := rest value
    exact ⟨final, same⟩

section Attempts

variable {Call : Type} (act : Call → Fallible ε σ α)

/-- Perform every call in order, catching each failure and going on from the
state it left behind. -/
def attemptAll : List Call → σ → List (Except ε α) × σ
  | [], state => ([], state)
  | call :: rest, state =>
    ((act call state).1 :: (attemptAll rest (act call state).2).1,
      (attemptAll rest (act call state).2).2)

/-- The calls of a caught sequence that returned a value. -/
def acceptedCalls : List Call → σ → List Call
  | [], _ => []
  | call :: rest, state =>
    match (act call state).1 with
    | .ok _ => call :: acceptedCalls rest (act call state).2
    | .error _ => acceptedCalls rest (act call state).2

/-- What the accepted calls of a caught sequence returned. -/
def acceptedValues : List Call → σ → List α
  | [], _ => []
  | call :: rest, state =>
    match (act call state).1 with
    | .ok value => value :: acceptedValues rest (act call state).2
    | .error _ => acceptedValues rest (act call state).2

/-- A property of one call and the state it starts from, at every step of a
caught sequence. -/
def EachAttempt (holds : Call → σ → Prop) : List Call → σ → Prop
  | [], _ => True
  | call :: rest, state => holds call state ∧ EachAttempt holds rest (act call state).2

/-- A failing call leaves what `view` sees exactly as it was. -/
def AtomicAt (view : σ → β) (call : Call) (state : σ) : Prop :=
  ∀ error, (act call state).1 = .error error → view (act call state).2 = view state

variable {act}

theorem EachAttempt.imp {holds other : Call → σ → Prop} (weaken : ∀ call state, holds call state → other call state)
    {calls : List Call} {state : σ} (each : EachAttempt act holds calls state) :
    EachAttempt act other calls state := by
  induction calls generalizing state with
  | nil => trivial
  | cons call rest ih => exact ⟨weaken call state each.1, ih each.2⟩

theorem eachAttempt_congr {holds other : Call → σ → Prop} (same : ∀ call state, holds call state ↔ other call state)
    {calls : List Call} {state : σ} :
    EachAttempt act holds calls state ↔ EachAttempt act other calls state :=
  ⟨.imp fun call state => (same call state).mp, .imp fun call state => (same call state).mpr⟩

/-- When every success appends its own entry to a log and every failure leaves
the log alone, the log grows by the entries of the accepted calls, in order. -/
theorem attemptAll_log {view : σ → List β} {entry : Call → β}
    (logs : ∀ call state value after, act call state = (.ok value, after) →
      view after = view state ++ [entry call])
    {calls : List Call} {state : σ} (atomic : EachAttempt act (AtomicAt act view) calls state) :
    view (attemptAll act calls state).2 = view state ++ (acceptedCalls act calls state).map entry := by
  induction calls generalizing state with
  | nil => simp [attemptAll, acceptedCalls]
  | cons call rest ih =>
    have later := ih atomic.2
    cases outcome : act call state with
    | mk result after =>
      simp only [attemptAll, acceptedCalls, outcome] at later ⊢
      rw [later]
      cases result with
      | ok value =>
        rw [logs call state value after outcome]
        simp
      | error error =>
        have kept := atomic.1 error (by rw [outcome])
        rw [outcome] at kept
        rw [show view after = view state from kept]

/-- What one call does to a log whose entries can be read: a success adds an entry that reads
as what it returned, and a failure adds nothing or strands an entry. -/
inductive Logs (view : σ → List β) (reads : β → γ → Prop) (shown : α → γ) (state : σ) : Except ε α × σ → Prop where
  | stored (entry : β) (added : view after = view state ++ [entry]) (read : reads entry (shown value)) :
      Logs view reads shown state (.ok value, after)
  | clean (kept : view after = view state) : Logs view reads shown state (.error error, after)
  | stranded (entry : β) (content : γ) (added : view after = view state ++ [entry]) (read : reads entry content) :
      Logs view reads shown state (.error error, after)

/-- Whatever calls of a caught sequence fail, the log grows by entries among which those of the
accepted calls are read back in order, and they are all there is exactly when every failure
left the log alone. -/
theorem attemptAll_reads {view : σ → List β} {reads : β → γ → Prop} {shown : α → γ}
    (logs : ∀ call state, Logs view reads shown state (act call state)) (calls : List Call) (state : σ) :
    ∃ entries contents, view (attemptAll act calls state).2 = view state ++ entries ∧
      List.Forall₂ reads entries contents ∧ ((acceptedValues act calls state).map shown).Sublist contents ∧
      ((acceptedValues act calls state).map shown = contents ↔ EachAttempt act (AtomicAt act view) calls state) := by
  induction calls generalizing state with
  | nil => exact ⟨[], [], (List.append_nil _).symm, .nil, .slnil, iff_of_true rfl trivial⟩
  | cons call rest ih =>
    have logged := logs call state
    cases outcome : act call state with
    | mk result after =>
      rw [outcome] at logged
      obtain ⟨entries, contents, grown, read, among, all⟩ := ih after
      simp only [attemptAll, acceptedValues, EachAttempt, AtomicAt, outcome, grown]
      cases logged with
      | @stored _ value entry added shows =>
        refine ⟨entry :: entries, shown value :: contents, ?_, .cons shows read, among.cons_cons _, ?_⟩
        · rw [added, List.append_assoc, List.singleton_append]
        · simp [all]
      | clean kept => exact ⟨entries, contents, by rw [kept], read, among, by simp [all, kept]⟩
      | stranded entry content added shows =>
        refine ⟨entry :: entries, content :: contents, ?_, .cons shows read, among.cons _, iff_of_false ?_ ?_⟩
        · rw [added, List.append_assoc, List.singleton_append]
        · intro same
          have short := among.length_le
          rw [same, List.length_cons] at short
          omega
        · intro atomic
          have kept := atomic.1 _ rfl
          rw [added] at kept
          simp at kept

end Attempts

end Fallible

end DigMerkle.Library
