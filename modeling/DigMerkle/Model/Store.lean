import DigMerkle.Model.Sdk

namespace DigMerkle

open Library

/-- The conditions of an update: replace the metadata, recreate the store. -/
def updateConditions (sdk : Sdk Allocator) (store : Datastore DigDataStoreMetadata)
    (newMetadata : DigDataStoreMetadata) : InContext Allocator Conditions := do
  let newMetadataCondition ← allocating (sdk.newMetadataCondition newMetadata)
  let recreateCondition ← allocating (sdk.ownerCreateCoinCondition store.info.launcherId
    store.info.ownerPuzzleHash store.info.delegatedPuzzles (!store.info.delegatedPuzzles.isEmpty))
  return [newMetadataCondition, recreateCondition]

/-- The successor a spend is parsed to. -/
def childOf (sdk : Sdk Allocator) (storeSpend : CoinSpend) (delegatedPuzzles : List DelegatedPuzzle) :
    MerkleResult (Datastore DigDataStoreMetadata) :=
  match sdk.fromSpend storeSpend delegatedPuzzles with
  | .ok (some child) => .ok child
  | .ok none => .error .notDataStore
  | .error error => .error (.driver error)

/-- The body of an update once its owner is known not to be custom. -/
def updateInContext (sdk : Sdk Allocator) (store : Datastore DigDataStoreMetadata) (owner : Owner)
    (newMetadata : DigDataStoreMetadata) : InContext Allocator MerkleCoinSpend := do
  let conditions ← updateConditions sdk store newMetadata
  let ownerSpend ← innerSpend sdk owner conditions
  let storeSpend ← allocating (sdk.datastoreSpend store ownerSpend)
  let child ← .ofExcept (childOf sdk storeSpend store.info.delegatedPuzzles)
  return ⟨[storeSpend], some child⟩

def updateRoot (sdk : Sdk Allocator) (store : Datastore DigDataStoreMetadata) (owner : Owner)
    (newMetadata : DigDataStoreMetadata) : MerkleResult MerkleCoinSpend :=
  if owner.isCustom then
    .error (.unsupportedOwner "an update's metadata and recreation conditions are built inside this call, so Owner::Custom cannot emit them — the bundle would ignore new_metadata or melt the store")
  else (updateInContext sdk store owner newMetadata sdk.newContext).1

/-- Only the key that curries to the recorded owner controls the store. -/
def gateOwnerControlsStore (sdk : Sdk Allocator) (store : Datastore M) : Owner → MerkleResult Unit
  | .standard publicKey =>
    if sdk.standardCurryTreeHash publicKey ≠ store.info.ownerPuzzleHash then .error .notTheOwner
    else .ok ()
  | .custom _ =>
    .error (.unsupportedOwner "melt requires Owner::Standard to prove control of the store")

def meltInContext (sdk : Sdk Allocator) (store : Datastore DigDataStoreMetadata) (owner : Owner) :
    InContext Allocator MerkleCoinSpend := do
  let ownerSpend ← innerSpend sdk owner [.meltSingleton]
  let storeSpend ← allocating (sdk.datastoreSpend store ownerSpend)
  return ⟨[storeSpend], none⟩

def melt (sdk : Sdk Allocator) (store : Datastore DigDataStoreMetadata) (owner : Owner) :
    MerkleResult MerkleCoinSpend :=
  if owner.isCustom then
    .error (.unsupportedOwner "a melt's MELT_SINGLETON condition is built inside this call, so Owner::Custom cannot emit it — the bundle would melt nothing")
  else do
    gateOwnerControlsStore sdk store owner
    (meltInContext sdk store owner sdk.newContext).1

/-- The innermost puzzle hash under the state layer: the owner's own puzzle, or
the delegation layer over it when there is a delegation set. -/
def authorityPuzzleHash (sdk : Sdk Allocator) (launcherId ownerPuzzleHash : Bytes32)
    (delegatedPuzzles : List DelegatedPuzzle) : Except DriverError Bytes32 :=
  if delegatedPuzzles.isEmpty then .ok ownerPuzzleHash else do
    let root ← sdk.merkleRoot delegatedPuzzles
    return sdk.delegationLayerCurryTreeHash launcherId ownerPuzzleHash root

def innerPuzzleHash (sdk : Sdk Allocator) (info : DatastoreInfo M) : Except DriverError Bytes32 :=
  authorityPuzzleHash sdk info.launcherId info.ownerPuzzleHash info.delegatedPuzzles

/-- The state layer's hash, curried with the DataLayer metadata updater. -/
def parentInnerPuzzleHash (sdk : Sdk Allocator) (store : Datastore DigDataStoreMetadata) :
    InContext Allocator Bytes32 := do
  let metadata ← allocMetadata sdk store.info.metadata
  let inner ← .ofExcept ((innerPuzzleHash sdk store.info).mapError .driver)
  return sdk.nftStateLayerTreeHash (sdk.treeHash metadata) sdk.dlMetadataUpdaterPuzzleHash inner

def childLineageProof (sdk : Sdk Allocator) (store : Datastore DigDataStoreMetadata) :
    MerkleResult LineageProof := do
  let parentInnerPuzzleHash ← (parentInnerPuzzleHash sdk store sdk.newContext).1
  return ⟨store.coin.parentCoinInfo, parentInnerPuzzleHash, store.coin.amount⟩

def unboundReveal (sdk : Sdk Allocator) (coin : Coin) : MerkleError :=
  .chain s!"the puzzle reveal for coin {(sdk.coinId coin).hex} does not hash to the coin's puzzle hash — the source returned a puzzle the coin never committed to"

/-- Decode a reveal or a solution, naming it in the error. -/
def parseProgram (sdk : Sdk Allocator) (what : String) (program : Program) : MerkleResult Clvm :=
  (sdk.programToClvm program).mapError fun error => .parse s!"{what}: {error}"

def requireRevealMatchesCoin (sdk : Sdk Allocator) (spend : CoinSpend) : MerkleResult Unit := do
  let puzzle ← parseProgram sdk "puzzle reveal" spend.puzzleReveal
  if sdk.treeHash puzzle ≠ spend.coin.puzzleHash then .error (unboundReveal sdk spend.coin)
  else .ok ()

def hydrationError (error : DriverError) : MerkleError :=
  match error.kind with
  | .missingChild => .missingLineage
  | .missingHint => .missingHint
  | .missingMemo => .missingHint
  | .other => .driver error

def hydrate (sdk : Sdk Allocator) (parentSpend : CoinSpend) :
    MerkleResult (Datastore DigDataStoreMetadata) := do
  requireRevealMatchesCoin sdk parentSpend
  match sdk.fromSpend parentSpend [] with
  | .ok (some store) => .ok store
  | .ok none => .error .notDataStore
  | .error error => .error (hydrationError error)

/-- The reveal decodes to a puzzle that the spent coin commits to. -/
def Reveals (sdk : Sdk Allocator) (spend : CoinSpend) (puzzle : Clvm) : Prop :=
  sdk.programToClvm spend.puzzleReveal = .ok puzzle ∧ sdk.treeHash puzzle = spend.coin.puzzleHash

theorem requireRevealMatchesCoin_eq_ok {sdk : Sdk Allocator} {spend : CoinSpend} :
    requireRevealMatchesCoin sdk spend = .ok () ↔ ∃ puzzle, Reveals sdk spend puzzle := by
  simp only [requireRevealMatchesCoin, parseProgram, except_bind_eq_ok, except_mapError_eq_ok]
  refine exists_congr fun puzzle => and_congr_right fun _ => ?_
  split <;> simp_all

/-- A spend hydrates exactly when its reveal is bound and the SDK parses it. -/
theorem hydrate_eq_ok {sdk : Sdk Allocator} {spend : CoinSpend} {store : Datastore DigDataStoreMetadata} :
    hydrate sdk spend = .ok store ↔
      (∃ puzzle, Reveals sdk spend puzzle) ∧ sdk.fromSpend spend [] = .ok (some store) := by
  simp only [hydrate, except_bind_eq_ok, ← requireRevealMatchesCoin_eq_ok]
  constructor
  · intro success
    rcases success with ⟨_, reveal, parsed⟩
    refine ⟨reveal, ?_⟩
    split at parsed
    · cases parsed; assumption
    · cases parsed
    · cases parsed
  · intro bound
    rcases bound with ⟨reveal, parsed⟩
    exact ⟨(), reveal, by rw [parsed]⟩

theorem childOf_eq_ok {sdk : Sdk Allocator} {spend : CoinSpend} {set : List DelegatedPuzzle}
    {child : Datastore DigDataStoreMetadata} :
    childOf sdk spend set = .ok child ↔ sdk.fromSpend spend set = .ok (some child) := by
  unfold childOf
  split <;> simp_all

theorem gateOwnerControlsStore_eq_ok {sdk : Sdk Allocator} {store : Datastore M} {publicKey : PublicKey} :
    gateOwnerControlsStore sdk store (.standard publicKey) = .ok () ↔
      sdk.standardCurryTreeHash publicKey = store.info.ownerPuzzleHash := by
  unfold gateOwnerControlsStore
  dsimp only
  split <;> simp_all

theorem childLineageProof_eq_ok {sdk : Sdk Allocator} {store : Datastore DigDataStoreMetadata}
    {proof : LineageProof} :
    childLineageProof sdk store = .ok proof ↔
      (∃ filled, sdk.alloc store.info.metadata.toClvm sdk.newAllocator = (.ok (), filled)) ∧
      ∃ inner, innerPuzzleHash sdk store.info = .ok inner ∧ proof = ⟨store.coin.parentCoinInfo,
        sdk.nftStateLayerTreeHash (sdk.treeHash store.info.metadata.toClvm) sdk.dlMetadataUpdaterPuzzleHash inner,
        store.coin.amount⟩ := by
  constructor
  · intro success
    obtain ⟨hash, computed, rest⟩ := except_bind_eq_ok.mp success
    obtain ⟨after, inContext⟩ : ∃ after, parentInnerPuzzleHash sdk store sdk.newContext = (.ok hash, after) :=
      Fallible.exists_after computed
    simp only [parentInnerPuzzleHash, allocMetadata, Fallible.bind_eq_ok, allocating_eq_ok,
      Fallible.ofExcept_eq_ok, Fallible.pure_eq_ok, except_mapError_eq_ok] at inContext
    obtain ⟨_, _, ⟨_, _, ⟨filled, encodes, _⟩, rfl, _⟩, inner, _, ⟨authority, _⟩, rfl, _⟩ := inContext
    cases rest
    exact ⟨⟨filled, encodes⟩, inner, authority, rfl⟩
  · intro ready
    rcases ready with ⟨⟨filled, encodes⟩, inner, authority, rfl⟩
    have computed : parentInnerPuzzleHash sdk store sdk.newContext =
        (.ok (sdk.nftStateLayerTreeHash (sdk.treeHash store.info.metadata.toClvm)
          sdk.dlMetadataUpdaterPuzzleHash inner), { sdk.newContext with allocator := filled }) := by
      simp only [parentInnerPuzzleHash, allocMetadata, Fallible.bind_eq_ok, allocating_eq_ok,
        Fallible.ofExcept_eq_ok, Fallible.pure_eq_ok, except_mapError_eq_ok]
      exact ⟨_, _, ⟨(), _, ⟨filled, encodes, rfl⟩, rfl, rfl⟩, inner, _, ⟨authority, rfl⟩, rfl, rfl⟩
    rw [childLineageProof, computed]
    rfl

end DigMerkle
