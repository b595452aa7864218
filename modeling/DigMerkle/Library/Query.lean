import Mathlib.Data.List.Chain

/-! Computations that ask a source by key, one question at a time, as trees whose branches
are the answers. -/

namespace DigMerkle.Library

variable {Key Answer Result : Type}

inductive Query (Key Answer Result : Type) where
  | done (result : Result)
  | ask (key : Key) (next : Answer → Query Key Answer Result)

namespace Query

def run (source : Key → Answer) : Query Key Answer Result → Result
  | done result => result
  | ask key next => run source (next (source key))

/-- The questions that a source is asked. -/
def asked (source : Key → Answer) : Query Key Answer Result → List Key
  | done _ => []
  | ask key next => key :: asked source (next (source key))

/-- Sources that agree on what one of them is asked are not told apart. -/
theorem run_congr {source source' : Key → Answer} {query : Query Key Answer Result}
    (agree : ∀ key ∈ query.asked source, source' key = source key) : query.run source' = query.run source := by
  induction query with
  | done result => rfl
  | ask key next ih =>
    rw [run, run, agree key List.mem_cons_self]
    exact ih _ fun other member => agree other (List.mem_cons_of_mem _ member)

/-- No source is asked more than so many questions. -/
def AtMost : Nat → Query Key Answer Result → Prop
  | _, done _ => True
  | 0, ask _ _ => False
  | bound + 1, ask _ next => ∀ answer, AtMost bound (next answer)

theorem AtMost.length_asked {bound : Nat} {query : Query Key Answer Result} (bounded : AtMost bound query)
    (source : Key → Answer) : (query.asked source).length ≤ bound := by
  induction query generalizing bound with
  | done result => exact Nat.zero_le bound
  | ask key next ih =>
    cases bound with
    | zero => cases bounded
    | succ bound =>
      rw [asked, List.length_cons]
      exact Nat.succ_le_succ (ih _ (bounded _))

/-- Each question but the first is one that the answer before it leads to. -/
def Follows (leads : Key → Answer → Key → Prop) : Query Key Answer Result → Prop
  | done _ => True
  | ask key next => ∀ answer, Follows leads (next answer) ∧
      ∀ key' next', next answer = ask key' next' → leads key answer key'

theorem Follows.chain {leads : Key → Answer → Key → Prop} {query : Query Key Answer Result}
    (follows : Follows leads query) (source : Key → Answer) :
    (query.asked source).IsChain fun key key' => leads key (source key) key' := by
  induction query with
  | done result => exact .nil
  | ask key next ih =>
    obtain ⟨later, leading⟩ := follows (source key)
    have rest := ih (source key) later
    rw [asked]
    cases asking : next (source key) with
    | done result => exact .singleton key
    | ask key' next' =>
      rw [asking] at rest
      exact .cons_cons (leading key' next' asking) rest

/-- A result that counts as found is never reached past an answer that was not served. -/
def Needs (served : Answer → Prop) (found : Result → Prop) : Query Key Answer Result → Prop
  | done _ => True
  | ask _ next => ∀ answer, Needs served found (next answer) ∧
      (¬ served answer → ∃ result, next answer = done result ∧ ¬ found result)

theorem Needs.served {served : Answer → Prop} {found : Result → Prop} {query : Query Key Answer Result}
    (needs : Needs served found query) {source : Key → Answer} (reached : found (query.run source)) :
    ∀ key ∈ query.asked source, served (source key) := by
  induction query with
  | done result => simp [asked]
  | ask key next ih =>
    obtain ⟨later, lost⟩ := needs (source key)
    intro other member
    rcases List.mem_cons.mp member with same | rest
    · by_contra unserved
      rw [same] at unserved
      obtain ⟨result, stopped, missed⟩ := lost unserved
      rw [run, stopped] at reached
      exact missed reached
    · exact ih _ later reached other rest

end Query

/-- Each source of a sequence keeps what the one before it served. -/
def Growing (served : Answer → Prop) (sources : Nat → Key → Answer) : Prop :=
  ∀ time key, served (sources time key) → sources (time + 1) key = sources time key

theorem Growing.keeps {served : Answer → Prop} {sources : Nat → Key → Answer} (growing : Growing served sources)
    {time later : Nat} (order : time ≤ later) {key : Key} (answered : served (sources time key)) :
    sources later key = sources time key := by
  induction order with
  | refl => rfl
  | step _ ih => rw [growing _ _ (ih.symm ▸ answered), ih]

/-- A computation whose questions were all served keeps its result as the source grows. -/
theorem Growing.run_eq {served : Answer → Prop} {sources : Nat → Key → Answer} (growing : Growing served sources)
    {time later : Nat} (order : time ≤ later) {query : Query Key Answer Result}
    (answered : ∀ key ∈ query.asked (sources time), served (sources time key)) :
    query.run (sources later) = query.run (sources time) :=
  Query.run_congr fun key member => growing.keeps order (answered key member)

end DigMerkle.Library
