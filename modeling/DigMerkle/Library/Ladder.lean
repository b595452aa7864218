import Mathlib.Order.GaloisConnection.Defs
import Mathlib.Order.WithBot

namespace DigMerkle.Library

variable {Rung Need : Type} [LinearOrder Need]

/-- The first listed rung that holds the need. -/
def firstFit (capacity : Rung → Need) (rungs : List Rung) (need : Need) : Option Rung :=
  rungs.find? fun rung => need ≤ capacity rung

variable {capacity : Rung → Need} {rungs : List Rung}

/-- The first fit, where an unbounded need and a missing rung stand on top. -/
def topFit (capacity : Rung → Need) (rungs : List Rung) : WithTop Need → WithTop Rung
  | ⊤ => ⊤
  | (need : Need) => (firstFit capacity rungs need).elim ⊤ fun rung => (rung : WithTop Rung)

theorem topFit_eq_coe {need : Need} {rung : Rung} :
    topFit capacity rungs need = rung ↔ firstFit capacity rungs need = some rung := by
  cases found : firstFit capacity rungs need <;> simp [topFit, found]

variable [LinearOrder Rung]

/-- Every rung is listed, from the smallest up, and a higher rung holds more. -/
structure Ladder (capacity : Rung → Need) (rungs : List Rung) : Prop where
  ascending : rungs.Pairwise (· < ·)
  complete : ∀ rung, rung ∈ rungs
  grows : StrictMono capacity

/-- In an ascending list the first fit stays below every fit. -/
theorem firstFit_le_iff (ascending : rungs.Pairwise (· < ·))
    (grows : StrictMono capacity) {need : Need} {rung : Rung} (listed : rung ∈ rungs) :
    (∃ found, firstFit capacity rungs need = some found ∧ found ≤ rung) ↔ need ≤ capacity rung := by
  induction rungs with
  | nil => cases listed
  | cons first rest ih =>
    obtain ⟨below, ascending⟩ := List.pairwise_cons.mp ascending
    unfold firstFit at ih ⊢
    by_cases fits : need ≤ capacity first
    · have lowest : first ≤ rung := by
        rcases List.mem_cons.mp listed with rfl | later
        · exact le_refl rung
        · exact (below rung later).le
      rw [List.find?_cons_of_pos (by simpa using fits)]
      constructor
      · intro _
        exact fits.trans (grows.monotone lowest)
      · intro _
        exact ⟨first, rfl, lowest⟩
    · rw [List.find?_cons_of_neg (by simpa using fits)]
      rcases List.mem_cons.mp listed with rfl | later
      · constructor
        · intro fit
          obtain ⟨found, higher, low⟩ := fit
          exact absurd (below found (List.mem_of_find?_eq_some higher)) (not_lt.mpr low)
        · intro holds
          exact absurd holds fits
      · exact ih ascending later

namespace Ladder

/-- Fitting is adjoint to capacity. -/
theorem gc (ladder : Ladder capacity rungs) : GaloisConnection (topFit capacity rungs) (WithTop.map capacity) := by
  intro need rung
  cases rung with
  | top => simp
  | coe rung =>
    cases need with
    | top => simp [topFit]
    | coe need =>
      rw [WithTop.map_coe, WithTop.coe_le_coe,
        ← firstFit_le_iff ladder.ascending ladder.grows (ladder.complete rung)]
      cases found : firstFit capacity rungs need <;> simp [topFit, found]

theorem topFit_capacity (ladder : Ladder capacity rungs) (rung : Rung) :
    topFit capacity rungs (capacity rung) = rung := by
  have closed := ladder.gc.u_l_u_eq_u (rung : WithTop Rung)
  exact WithTop.map_injective ladder.grows.injective closed

end Ladder

end DigMerkle.Library
