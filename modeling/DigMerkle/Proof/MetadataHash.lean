import DigMerkle.Proof.ReadBack
import Mathlib.Data.Set.Function

namespace DigMerkle

open Library

variable {Allocator : Type} {sdk : Sdk Allocator}

/-- The metadata node of the store coin that a spend creates: the launcher solution's, if it
lists one that decodes, or what a recreation replaces or keeps. -/
inductive CreatesMetadata (sdk : Sdk Allocator) (spend : CoinSpend) : Clvm → Prop where
  | launched (launcher : spend.coin.puzzleHash = sdk.singletonLauncherHash)
      (solved : sdk.programToClvm spend.solution = .ok solution)
      (opened : sdk.launcherSolution solution = some started)
      (accepted : DigDataStoreMetadata.fromClvm started.metadata = .ok metadata) :
      CreatesMetadata sdk spend started.metadata
  | recreated (recreation : Recreation sdk spend view conditions created memos) :
      CreatesMetadata sdk spend ((newMetadataNodes conditions).headD view.metadata)

theorem childMetadata_eq_ok {view : StoreSpend} {conditions : Conditions} {metadata : DigDataStoreMetadata}
    (read : childMetadata sdk view conditions = .ok metadata) :
    DigDataStoreMetadata.fromClvm ((newMetadataNodes conditions).headD view.metadata) = .ok metadata := by
  obtain ⟨current, parsed, rest⟩ := except_bind_eq_ok.mp read
  cases replaced : newMetadataNodes conditions with
  | nil =>
    rw [replaced] at rest
    cases rest
    exact readMetadata_eq_ok.mp parsed
  | cons node others =>
    rw [replaced] at rest
    exact readMetadata_eq_ok.mp rest

theorem launchedStore_metadata {coin : Coin} {started : LauncherSolution}
    {store : Datastore DigDataStoreMetadata} {listed : DigDataStoreMetadata}
    (accepted : DigDataStoreMetadata.fromClvm started.metadata = .ok listed)
    (read : launchedStore sdk coin started = .ok store) :
    DigDataStoreMetadata.fromClvm started.metadata = .ok store.info.metadata := by
  obtain ⟨metadata, owner, set, decoded, _, rfl⟩ := launchedStore_eq_ok.mp read
  cases (LauncherSolution.current accepted sdk (sdk.coinId coin)).1.symm.trans decoded
  exact accepted

theorem recreatedStore_metadata {coin : Coin} {view : StoreSpend} {conditions : Conditions}
    {created : CreateCoin} {memos : List (List UInt8)} {set : List DelegatedPuzzle}
    {store : Datastore DigDataStoreMetadata}
    (read : recreatedStore sdk coin view conditions created memos set = .ok store) :
    DigDataStoreMetadata.fromClvm ((newMetadataNodes conditions).headD view.metadata) =
      .ok store.info.metadata := by
  obtain ⟨metadata, parsed, built⟩ := except_bind_eq_ok.mp read
  split at built
  · obtain ⟨authority, _, rest⟩ := except_bind_eq_ok.mp built
    cases rest
    exact childMetadata_eq_ok parsed
  · obtain ⟨authority, _, rest⟩ := except_bind_eq_ok.mp built
    cases rest
    exact childMetadata_eq_ok parsed

theorem CreatesMetadata.decoded (fromSpend : FromSpendLaw sdk) {spend : CoinSpend} {node : Clvm}
    {store : Datastore DigDataStoreMetadata} (creates : CreatesMetadata sdk spend node)
    (hydrated : hydrate sdk spend = .ok store) :
    DigDataStoreMetadata.fromClvm node = .ok store.info.metadata := by
  obtain ⟨_, parsed⟩ := hydrate_eq_ok.mp hydrated
  cases creates with
  | launched launcher solved opened accepted =>
    exact launchedStore_metadata accepted ((fromSpend.launched launcher solved opened _).mp parsed)
  | recreated recreation =>
    exact recreatedStore_metadata ((fromSpend.recreated recreation).mp parsed)

/-- Everything the crate derives from a hydrated record agrees with the coin's node:
the metadata hash, the child's lineage proof, and the puzzle of each later spend. -/
structure MetadataKept (sdk : Sdk Allocator) (node : Clvm) (store : Datastore DigDataStoreMetadata) : Prop where
  hash : sdk.treeHash store.info.metadata.toClvm = sdk.treeHash node
  lineage : ∀ proof, childLineageProof sdk store = .ok proof → ∃ inner,
    innerPuzzleHash sdk store.info = .ok inner ∧ proof.parentInnerPuzzleHash =
      sdk.nftStateLayerTreeHash (sdk.treeHash node) sdk.dlMetadataUpdaterPuzzleHash inner
  rebuilt : ∀ publicKey built, (melt sdk store (.standard publicKey) = .ok built ∨
      ∃ newMetadata, updateRoot sdk store (.standard publicKey) newMetadata = .ok built) →
    ∃ spend puzzle inner, built.coinSpends = [spend] ∧ sdk.programToClvm spend.puzzleReveal = .ok puzzle ∧
      authorityPuzzleHash sdk store.info.launcherId (revealedOwner sdk publicKey store.info)
        store.info.delegatedPuzzles = .ok inner ∧
      sdk.treeHash puzzle = layeredPuzzleHash sdk store.info.launcherId node inner

/-- Keeping the hash is enough: the rest is computed from it. -/
theorem metadataKept_iff (laws : SpendLaws sdk) {node : Clvm} {store : Datastore DigDataStoreMetadata} :
    MetadataKept sdk node store ↔ sdk.treeHash store.info.metadata.toClvm = sdk.treeHash node := by
  refine ⟨MetadataKept.hash, fun hash => ⟨hash, fun proof success => ?_, fun publicKey built success => ?_⟩⟩
  · obtain ⟨_, inner, authority, rfl⟩ := childLineageProof_eq_ok.mp success
    exact ⟨inner, authority, by rw [hash]⟩
  · obtain ⟨conditions, spend, view, spends, spent⟩ : ∃ conditions spend view, built.coinSpends = [spend] ∧
        SpentBy sdk publicKey conditions store spend view := by
      rcases success with melted | ⟨newMetadata, updated⟩
      · obtain ⟨spend, view, rfl, spent, _⟩ := melt_eq_ok laws melted
        exact ⟨_, spend, view, rfl, spent⟩
      · obtain ⟨spend, child, inner, view, rfl, spent⟩ := updateRoot_eq_ok laws updated
        exact ⟨_, spend, view, rfl, spent.toSpentBy⟩
    obtain ⟨puzzle, reveal, same⟩ := spent.reveal_hash laws.curry
    refine ⟨spend, puzzle, _, spends, reveal, spent.inner_hash laws.curry, ?_⟩
    rw [same, storePuzzleHash, layeredPuzzleHash, hash, layeredPuzzleHash]

/-- The metadata of a hydrated store hashes again to what its coin commits to
exactly when the node lists only known keys, each at most once and in the order in
which they are encoded. -/
theorem hydrated_metadata_rehashes_iff (laws : SpendLaws sdk) (fromSpend : FromSpendLaw sdk) {spend : CoinSpend}
    {node : Clvm} {store : Datastore DigDataStoreMetadata} (hydrated : hydrate sdk spend = .ok store)
    (creates : CreatesMetadata sdk spend node)
    (collisionFree : Set.InjOn sdk.treeHash {store.info.metadata.toClvm, node}) :
    MetadataKept sdk node store ↔ ∃ order, DigDataStoreMetadata.alistKeys node = .ok order ∧
      order.Sublist DigDataStoreMetadata.keys := by
  have decoded := creates.decoded fromSpend hydrated
  rw [metadataKept_iff laws, ← DigDataStoreMetadata.toClvm_fromClvm_iff decoded]
  exact ⟨fun same => collisionFree (.inl rfl) (.inr rfl) same, congrArg sdk.treeHash⟩

section Samples

open Reference

def eveLauncherCoin : Coin := ⟨hash32 1, wallet.singletonLauncherHash, 1⟩

/-- A launcher's solution that starts an undelegated store over a metadata node. -/
def eveSolution (node : Clvm) : LauncherSolution :=
  ⟨layeredPuzzleHash wallet (coinId eveLauncherCoin) node ownerHash, 1, node, ownerHash, []⟩

def eveSpend (node : Clvm) : CoinSpend :=
  ⟨eveLauncherCoin, serialize launcherPuzzle, serialize (encodeLauncherSolution (eveSolution node))⟩

theorem eveSpend_creates {node : Clvm} {metadata : DigDataStoreMetadata}
    (accepted : DigDataStoreMetadata.fromClvm node = .ok metadata) : CreatesMetadata wallet (eveSpend node) node := by
  have opened : wallet.launcherSolution (encodeLauncherSolution (eveSolution node)) = some (eveSolution node) :=
    launcherSolution_encode _
  exact .launched rfl (deserialize_serialize _) opened accepted

def labelItem : Clvm := .pair (.ofString "l") (.ofString "site")

/-- A label and a size bucket, in encoding order. -/
def ownMetadata : Clvm :=
  .pair (hash32 90).toClvm (.ofList [labelItem, .pair (.ofString "sz") (.atom [10])])

theorem own_metadata_kept : ∃ store, hydrate wallet (eveSpend ownMetadata) = .ok store ∧
    MetadataKept wallet ownMetadata store := by
  have accepted : (hydrate wallet (eveSpend ownMetadata)).isOk = true := by decide +kernel
  have encoded : (hydrate wallet (eveSpend ownMetadata)).toOption.map (fun store =>
      decide (store.info.metadata.toClvm = ownMetadata)) = some true := by decide +kernel
  obtain ⟨store, hydrated⟩ := except_isOk_iff.mp accepted
  rw [hydrated] at encoded
  have same : store.info.metadata.toClvm = ownMetadata := by simpa [Except.toOption] using encoded
  have collisionFree : Set.InjOn wallet.treeHash {store.info.metadata.toClvm, ownMetadata} := by
    rw [same]
    rintro _ (rfl | rfl) _ (rfl | rfl) _ <;> rfl
  have ordered : ["l", "sz"].Sublist DigDataStoreMetadata.keys := by decide
  have listed : (DigDataStoreMetadata.fromClvm ownMetadata).isOk = true := by decide +kernel
  obtain ⟨metadata, accepts⟩ := except_isOk_iff.mp listed
  exact ⟨store, hydrated, (hydrated_metadata_rehashes_iff spendLaws fromSpendLaw hydrated (eveSpend_creates accepts)
    collisionFree).mpr ⟨_, by decide +kernel, ordered⟩⟩

/-- A label and a byte count that the crate does not know. -/
def foreignMetadata : Clvm :=
  .pair (hash32 90).toClvm (.ofList [labelItem, .pair (.ofString "b") (.atom [42])])

/-- A store with a byte count hydrates, and its metadata encodes to another node. -/
theorem foreign_metadata_lost : CreatesMetadata wallet (eveSpend foreignMetadata) foreignMetadata ∧
    ∃ store, hydrate wallet (eveSpend foreignMetadata) = .ok store ∧
      ¬ wallet.treeHash store.info.metadata.toClvm = wallet.treeHash foreignMetadata := by
  have changed : (hydrate wallet (eveSpend foreignMetadata)).toOption.map (fun store =>
      decide (wallet.treeHash store.info.metadata.toClvm = wallet.treeHash foreignMetadata)) = some false := by
    decide +kernel
  have listed : (DigDataStoreMetadata.fromClvm foreignMetadata).isOk = true := by decide +kernel
  obtain ⟨metadata, accepts⟩ := except_isOk_iff.mp listed
  exact ⟨eveSpend_creates accepts, except_toOption_decide.mp changed⟩

end Samples

end DigMerkle
