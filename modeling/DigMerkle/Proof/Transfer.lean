import DigMerkle.Proof.Binding
import DigMerkle.Proof.Melt

namespace DigMerkle

open Library

variable {Allocator : Type} {sdk : Sdk Allocator}

/-- The step lemma: a child keeps the launcher id and the set, and names the owner that the
spend reveals. -/
theorem UpdateStep.Succeeds.child (laws : UpdateLaws sdk) {store : Datastore DigDataStoreMetadata}
    {step : UpdateStep} (success : step.Succeeds sdk store) :
    step.child.info.launcherId = store.info.launcherId ∧
      step.child.info.delegatedPuzzles = store.info.delegatedPuzzles ∧
      step.child.info.ownerPuzzleHash = revealedOwner sdk step.publicKey store.info := by
  obtain ⟨spend, inner, view, _, updated⟩ := success.updated laws.toSpendLaws
  obtain ⟨amount, child⟩ := updated.child_succeeds laws
  rw [child]
  exact ⟨rfl, rfl, rfl⟩

section Samples

open Reference

end Samples

end DigMerkle
