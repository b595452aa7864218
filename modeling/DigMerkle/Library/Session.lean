import Mathlib.Data.List.Basic

/-! Sessions: requests served one after another by a step that may refuse, and a
register that only its owner writes and closes. -/

namespace DigMerkle.Library

section Serve

variable {State View Request : Type} (step : State → Request → Option State)

/-- The state after one request; a refused request leaves it as it was. -/
def serve (state : State) (request : Request) : State := (step state request).getD state

/-- The answer to each request of a session. -/
def answers : State → List Request → List (Option State)
  | _, [] => []
  | state, request :: requests => step state request :: answers (serve step state request) requests

/-- The state that a session leads to. -/
def settled (state : State) (requests : List Request) : State := requests.foldl (serve step) state

variable {step}

/-- A step refines another from a state: both refuse, or both lead to states that look
alike, and the invariant is kept. -/
structure Refines (step : State → Request → Option State) (spec : View → Request → Option View)
    (view : State → View) (holds : State → Prop) (state : State) (request : Request) : Prop where
  answer : (step state request).map view = spec (view state) request
  kept : ∀ next, step state request = some next → holds next

theorem Refines.serve {spec : View → Request → Option View} {view : State → View} {holds : State → Prop}
    {state : State} {request : Request} (refines : Refines step spec view holds state request)
    (initial : holds state) : holds (serve step state request) ∧
      view (Library.serve step state request) = Library.serve spec (view state) request := by
  have answer := refines.answer
  rw [Library.serve, Library.serve, ← answer]
  cases outcome : step state request with
  | none => exact ⟨initial, rfl⟩
  | some next => exact ⟨refines.kept next outcome, rfl⟩

end Serve

/-- A request to a register, and the writer that makes it. -/
inductive Request (Writer Value : Type) where
  | write (writer : Writer) (value : Value)
  | close (writer : Writer)
  deriving DecidableEq

namespace Request

variable {Writer Value : Type}

def writer : Request Writer Value → Writer
  | write writer _ => writer
  | close writer => writer

def written? : Request Writer Value → Option Value
  | write _ value => some value
  | close _ => none

/-- An open register holds a value, which its owner replaces or closes; a closed register
serves nobody. -/
def register (owns : Writer → Prop) [DecidablePred owns] : Option Value → Request Writer Value → Option (Option Value)
  | none, _ => none
  | some _, write writer value => if owns writer then some (some value) else none
  | some _, close writer => if owns writer then some none else none

end Request

end DigMerkle.Library
