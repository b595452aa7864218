import DigMerkle.Library.Descent
import DigMerkle.Proof.Progress

/-! What a store's last coin commits to. Each coin names its parent, so the id of the coin
after a run of updates determines the launcher and every metadata the store has had. -/

namespace DigMerkle

open Library

variable {Allocator : Type} {sdk : Sdk Allocator}

/-- An accepted launch and a run of updates of its store by its owner's key. -/
structure OwnedRun (sdk : Sdk Allocator) where
  kind : StoreKind
  launcher : Launcher
  metadata : DigDataStoreMetadata
  publicKey : PublicKey
  set : List DelegatedPuzzle
  ctx : SpendContext Allocator
  after : SpendContext Allocator
  launch : DatastoreLaunch
  launched : mintDatastoreLaunchWithKind sdk kind launcher metadata (sdk.standardCurryTreeHash publicKey) set ctx =
    (.ok launch, after)
  steps : List UpdateStep
  run : UpdateRun sdk launch.datastore steps
  keyed : ∀ step ∈ steps, step.publicKey = publicKey

namespace OwnedRun

/-- The launcher's coin and the coin of every store, oldest first. -/
def coins (history : OwnedRun sdk) : List Coin :=
  history.launcher.coin :: history.launch.datastore.coin :: history.steps.map fun step => step.child.coin

def versions (history : OwnedRun sdk) : List DigDataStoreMetadata :=
  history.metadata :: history.steps.map UpdateStep.newMetadata

end OwnedRun

/-- The coins that a run spends, latest first, on top of those spent before it. -/
def spentCoins : Datastore DigDataStoreMetadata → List UpdateStep → List Coin → List Coin
  | _, [], past => past
  | store, step :: steps, past => spentCoins step.child steps (store.coin :: past)

namespace OwnedRun

variable (history : OwnedRun sdk)

def spent : List Coin := spentCoins history.launch.datastore history.steps [history.launcher.coin]

end OwnedRun

section Samples

open Reference

end Samples

end DigMerkle
