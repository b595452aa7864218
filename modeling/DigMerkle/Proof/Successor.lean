import DigMerkle.Proof.Authority
import DigMerkle.Proof.Melt

namespace DigMerkle

open Library

variable {Allocator : Type} {sdk : Sdk Allocator}

theorem SpentBy.stateLayerHash (curry : CurryLaw sdk) {publicKey : PublicKey} {conditions : Conditions}
    {store : Datastore DigDataStoreMetadata} {spend : CoinSpend} {view : StoreSpend} {inner : Bytes32}
    (spent : SpentBy sdk publicKey conditions store spend view)
    (key : sdk.standardCurryTreeHash publicKey = store.info.ownerPuzzleHash)
    (authority : innerPuzzleHash sdk store.info = .ok inner) :
    view.stateLayerHash sdk = sdk.nftStateLayerTreeHash (sdk.treeHash store.info.metadata.toClvm)
      sdk.dlMetadataUpdaterPuzzleHash inner := by
  rw [StoreSpend.stateLayerHash, spent.metadata, spent.updater,
    spent.inner_eq curry (revealedOwner_eq key) authority]

/-- The coin that a child's proof says its parent is. -/
def LineageProof.parentCoin (sdk : Sdk Allocator) (launcherId : Bytes32) (proof : LineageProof) : Coin :=
  ⟨proof.parentParentCoinInfo, sdk.singletonCurryTreeHash launcherId proof.parentInnerPuzzleHash, proof.parentAmount⟩

section Samples

open Reference

end Samples

/-- The step lemma: the owner's child names the owner again, and holds the amount that the SDK
recreates every store with. -/
theorem UpdateStep.Succeeds.amount (laws : UpdateLaws sdk) {store : Datastore DigDataStoreMetadata}
    {step : UpdateStep} (success : step.Succeeds sdk store)
    (key : sdk.standardCurryTreeHash step.publicKey = store.info.ownerPuzzleHash) :
    step.child.info.ownerPuzzleHash = store.info.ownerPuzzleHash ∧
      step.child.coin.amount = sdk.recreationAmount := by
  obtain ⟨spend, inner, view, _, updated⟩ := success.updated laws.toSpendLaws
  rw [updated.child_eq laws (revealedOwner_self key)]
  exact ⟨revealedOwner_eq key, rfl⟩

section Samples

open Reference

end Samples

end DigMerkle
