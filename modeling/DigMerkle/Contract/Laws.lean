import DigMerkle.Library.Replay
import DigMerkle.Model.Mint
import DigMerkle.Model.Read

/-! The documented behaviour of the SDK that results about the crate rely on,
one group of operations at a time. Each result names the groups it needs. -/

namespace DigMerkle

open Library

def Sdk.emitted (sdk : Sdk Allocator) (puzzle solution : Clvm) : Except DriverError Conditions := do
  let output ← sdk.run puzzle solution
  (sdk.conditionsFromClvm output).mapError sdk.fromClvmDriverError

/-- The singleton outputs among conditions; a valid spend has at most one. -/
def oddCreateCoins (conditions : Conditions) : List CreateCoin :=
  (conditions.filterMap Condition.created?).filter fun created => created.amount % 2 = 1

def Condition.newMetadata? : Condition → Option Clvm
  | .newMetadata metadata => some metadata
  | _ => none

def newMetadataNodes (conditions : Conditions) : List Clvm :=
  conditions.filterMap Condition.newMetadata?

/-- The memos of a created coin, when they are a list of atoms. -/
def memoList : Memos → Option (List (List UInt8))
  | .none => some []
  | .some node => (node.decodeList Clvm.decodeAtom).toOption

def memosOf (memos : List (List UInt8)) : Memos := .some (.ofList (memos.map .atom))

theorem memoList_memosOf (memos : List (List UInt8)) : memoList (memosOf memos) = some memos := by
  have decoded : (Clvm.ofList (memos.map .atom)).decodeList Clvm.decodeAtom = .ok memos :=
    Clvm.decodeList_ofList memos fun _ _ => rfl
  rw [memosOf, memoList, decoded]
  rfl

def StoreSpend.stateLayerHash (sdk : Sdk Allocator) (view : StoreSpend) : Bytes32 :=
  sdk.nftStateLayerTreeHash (sdk.treeHash view.metadata) view.metadataUpdaterPuzzleHash
    (sdk.treeHash view.innerPuzzle)

/-- A curried hash is the tree hash of the curried puzzle. -/
structure CurryLaw (sdk : Sdk Allocator) : Prop where
  standard : ∀ publicKey, sdk.treeHash (sdk.standardPuzzle publicKey) = sdk.standardCurryTreeHash publicKey
  delegation : ∀ {puzzle solution layer}, sdk.delegationSpend puzzle solution = some layer →
    sdk.treeHash puzzle =
      sdk.delegationLayerCurryTreeHash layer.launcherId layer.ownerPuzzleHash layer.merkleRoot
  store : ∀ {puzzle solution view}, sdk.storeSpend puzzle solution = some view →
    sdk.treeHash puzzle = sdk.singletonCurryTreeHash view.launcherId (view.stateLayerHash sdk)

/-- The standard layer reveals the standard puzzle and emits what it is given. -/
structure StandardLaw (sdk : Sdk Allocator) : Prop where
  reveals : ∀ {publicKey conditions allocator spend after},
    sdk.standardSpendWithConditions publicKey conditions allocator = (.ok spend, after) →
    spend.puzzle = sdk.standardPuzzle publicKey
  emits : ∀ {publicKey conditions allocator spend after},
    sdk.standardSpendWithConditions publicKey conditions allocator = (.ok spend, after) →
    (∀ condition, .other condition ∉ conditions) →
    sdk.emitted spend.puzzle spend.solution = .ok (.aggSigMe publicKey :: conditions)
  undelegated : ∀ publicKey solution, sdk.delegationSpend (sdk.standardPuzzle publicKey) solution = none

/-- The delegation layer compares the revealed puzzle with the owner's first: the owner's
runs as it is, whatever the proof. Any other puzzle needs a proof; its conditions pass
through beside the layer's own recreation, and a listed one with its proof is let through. -/
structure DelegationLaw (sdk : Sdk Allocator) : Prop where
  owner : ∀ {puzzle solution layer}, sdk.delegationSpend puzzle solution = some layer →
    sdk.treeHash layer.puzzle = layer.ownerPuzzleHash →
    ∀ conditions, sdk.emitted puzzle solution = .ok conditions ↔
      sdk.emitted layer.puzzle layer.solution = .ok conditions
  stranger : ∀ {puzzle solution layer}, sdk.delegationSpend puzzle solution = some layer →
    sdk.treeHash layer.puzzle ≠ layer.ownerPuzzleHash → layer.merkleProof = none →
    ∃ error, sdk.emitted puzzle solution = .error error
  delegate : ∀ {puzzle solution layer conditions}, sdk.delegationSpend puzzle solution = some layer →
    sdk.treeHash layer.puzzle ≠ layer.ownerPuzzleHash → sdk.emitted puzzle solution = .ok conditions →
    ∃ inner amount, sdk.emitted layer.puzzle layer.solution = .ok inner ∧ amount % 2 = 1 ∧
      conditions.Perm (.createCoin ⟨sdk.treeHash puzzle, amount, memosOf [layer.launcherId.bytes]⟩ :: inner)
  listed : ∀ {puzzle solution layer set proof inner}, sdk.delegationSpend puzzle solution = some layer →
    sdk.merkleRoot set = .ok layer.merkleRoot → sdk.merkleProof set (sdk.treeHash layer.puzzle) = some proof →
    layer.merkleProof = some proof → sdk.emitted layer.puzzle layer.solution = .ok inner →
    ∃ conditions, sdk.emitted puzzle solution = .ok conditions

/-- The layers between the state layer and the inner spend of a store. -/
def InnerLayers (sdk : Sdk Allocator) (info : DatastoreInfo M) (inner : Spend) (view : StoreSpend) : Prop :=
  (info.delegatedPuzzles = [] → view.innerPuzzle = inner.puzzle ∧ view.innerSolution = inner.solution) ∧
  (info.delegatedPuzzles ≠ [] → ∃ root, sdk.merkleRoot info.delegatedPuzzles = .ok root ∧
    sdk.delegationSpend view.innerPuzzle view.innerSolution =
      some ⟨info.launcherId, info.ownerPuzzleHash, root,
        sdk.merkleProof info.delegatedPuzzles (sdk.treeHash inner.puzzle), inner.puzzle, inner.solution⟩)

/-- What the reveal and the solution of a non-launcher store spend decode to. -/
structure IsStoreSpend (sdk : Sdk Allocator) (spend : CoinSpend) (view : StoreSpend) : Prop where
  reveal : ∃ puzzle, sdk.programToClvm spend.puzzleReveal = .ok puzzle ∧
    ∃ solution, sdk.programToClvm spend.solution = .ok solution ∧
      sdk.storeSpend puzzle solution = some view

/-- `Datastore::spend` rebuilds the store's layers around the inner spend. -/
structure StoreSpendLaw (sdk : Sdk Allocator) : Prop where
  spent : ∀ {store inner allocator spend after},
    sdk.datastoreSpend store inner allocator = (.ok spend, after) →
    spend.coin = store.coin ∧ ∃ view, IsStoreSpend sdk spend view ∧
      view.launcherId = store.info.launcherId ∧ view.metadata = store.info.metadata.toClvm ∧
      view.metadataUpdaterPuzzleHash = sdk.dlMetadataUpdaterPuzzleHash ∧
      InnerLayers sdk store.info inner view

/-- A spend can be built for every key and every store whose delegation tree can. -/
structure ConstructionLaw (sdk : Sdk Allocator) : Prop where
  standard : ∀ publicKey conditions allocator,
    ∃ spend after, sdk.standardSpendWithConditions publicKey conditions allocator = (.ok spend, after)
  store : ∀ store inner allocator, (innerPuzzleHash sdk store.info).isOk = true →
    ∃ spend after, sdk.datastoreSpend store inner allocator = (.ok spend, after)

/-- The conditions of an update can be built for every store whose delegation tree can. -/
structure ConditionConstructionLaw (sdk : Sdk Allocator) : Prop where
  newMetadata : ∀ metadata allocator,
    ∃ condition after, sdk.newMetadataCondition metadata allocator = (.ok condition, after)
  recreate : ∀ launcherId ownerPuzzleHash set hinted allocator,
    (authorityPuzzleHash sdk launcherId ownerPuzzleHash set).isOk = true →
    ∃ condition after,
      sdk.ownerCreateCoinCondition launcherId ownerPuzzleHash set hinted allocator = (.ok condition, after)

/-- A launch can be built for every set whose delegation tree can, and any spend can be staged. -/
structure LaunchConstructionLaw (sdk : Sdk Allocator) : Prop where
  mint : ∀ launcher metadata owner set ctx,
    (authorityPuzzleHash sdk (sdk.coinId launcher.coin) owner set).isOk = true →
    ∃ minted after, sdk.launcherMintDatastore launcher metadata owner set ctx = (.ok minted, after)
  memos : ∀ hints allocator, ∃ memos after, sdk.memos hints allocator = (.ok memos, after)
  hint : ∀ hint allocator, ∃ memos after, sdk.hint hint allocator = (.ok memos, after)
  stage : ∀ coin spend ctx, ∃ after, sdk.contextSpend coin spend ctx = (.ok (), after)

/-- The delegation tree has a proof for the leaves of the set and for no other hash. -/
structure MerkleLaw (sdk : Sdk Allocator) : Prop where
  proof : ∀ set puzzleHash, sdk.merkleProof set puzzleHash = none ↔
    ∀ puzzle ∈ set, sdk.leafHash puzzle ≠ puzzleHash
  admin : ∀ puzzleHash, sdk.leafHash (.admin puzzleHash) = puzzleHash

/-- The conditions an update is built from. -/
structure ConditionLaw (sdk : Sdk Allocator) : Prop where
  newMetadata : ∀ {metadata allocator condition after},
    sdk.newMetadataCondition metadata allocator = (.ok condition, after) →
    condition = .newMetadata metadata.toClvm
  recreate : ∀ {launcherId ownerPuzzleHash set hinted allocator condition after},
    sdk.ownerCreateCoinCondition launcherId ownerPuzzleHash set hinted allocator = (.ok condition, after) →
    ∃ puzzleHash, authorityPuzzleHash sdk launcherId ownerPuzzleHash set = .ok puzzleHash ∧
      condition = .createCoin ⟨puzzleHash, sdk.recreationAmount, memosOf
        (launcherId.bytes :: if hinted then sdk.recreationMemos ownerPuzzleHash set else [])⟩
  amount_odd : sdk.recreationAmount % 2 = 1

/-- Staging a spend appends it to the context. -/
structure StageLaw (sdk : Sdk Allocator) : Prop where
  staged : ∀ {coin spend ctx after}, sdk.contextSpend coin spend ctx = (.ok (), after) →
    ∃ staged, after.coinSpends = ctx.coinSpends ++ [staged] ∧ staged.coin = coin ∧
      sdk.programToClvm staged.puzzleReveal = .ok spend.puzzle ∧
      sdk.programToClvm staged.solution = .ok spend.solution

/-- Allocated memos are the list of the given hashes. -/
structure MemosLaw (sdk : Sdk Allocator) : Prop where
  listed : ∀ {hints allocator memos after}, sdk.memos hints allocator = (.ok memos, after) →
    memos = memosOf (hints.map BytesImpl.bytes)

/-- A hint is the one memo of a coin. -/
structure HintLaw (sdk : Sdk Allocator) : Prop where
  hinted : ∀ {hint allocator memos after}, sdk.hint hint allocator = (.ok memos, after) →
    memos = memosOf [hint.bytes]

/-- What is built and staged does not depend on what a context already holds. -/
structure PortableLaw (sdk : Sdk Allocator) : Prop where
  standard : ∀ publicKey conditions,
    Fallible.Replays (fun _ => ([] : List CoinSpend)) (sdk.standardSpendWithConditions publicKey conditions)
  stage : ∀ coin spend, Fallible.Replays SpendContext.coinSpends (sdk.contextSpend coin spend)
  mint : ∀ launcher metadata owner set,
    Fallible.Replays SpendContext.coinSpends (sdk.launcherMintDatastore launcher metadata owner set)

/-- A direct launcher is a child of the given coin, created by its one condition. -/
structure LauncherLaw (sdk : Sdk Allocator) : Prop where
  coin : ∀ parentCoinId amount,
    (sdk.launcherNew parentCoinId amount).coin = ⟨parentCoinId, sdk.singletonLauncherHash, amount⟩
  singletonAmount : ∀ parentCoinId amount, (sdk.launcherNew parentCoinId amount).singletonAmount = amount
  conditions : ∀ parentCoinId amount, ∃ memos, (sdk.launcherNew parentCoinId amount).conditions =
    [.createCoin ⟨sdk.singletonLauncherHash, amount, memos⟩]

/-- The SDK's mint stages the launcher spend when it succeeds and nothing when it
fails, asserts the launcher's announcement and mints the launcher's amount. -/
structure StagingLaw (sdk : Sdk Allocator) : Prop where
  failed : ∀ {launcher metadata owner set ctx error after},
    sdk.launcherMintDatastore launcher metadata owner set ctx = (.error error, after) →
    after.coinSpends = ctx.coinSpends
  staged : ∀ {launcher metadata owner set ctx minted after},
    sdk.launcherMintDatastore launcher metadata owner set ctx = (.ok minted, after) →
    ∃ spend, after.coinSpends = ctx.coinSpends ++ [spend] ∧ spend.coin = launcher.coin
  conditions : ∀ {launcher metadata owner set ctx minted after},
    sdk.launcherMintDatastore launcher metadata owner set ctx = (.ok minted, after) →
    ∃ announcementId, minted.1 = launcher.conditions ++ [.assertCoinAnnouncement announcementId]
  amount : ∀ {launcher metadata owner set ctx minted after},
    sdk.launcherMintDatastore launcher metadata owner set ctx = (.ok minted, after) →
    minted.2.coin.amount = launcher.singletonAmount

/-- The full puzzle hash of a store coin over a metadata node and an inner puzzle hash. -/
def layeredPuzzleHash (sdk : Sdk Allocator) (launcherId : Bytes32) (metadata : Clvm)
    (inner : Bytes32) : Bytes32 :=
  sdk.singletonCurryTreeHash launcherId
    (sdk.nftStateLayerTreeHash (sdk.treeHash metadata) sdk.dlMetadataUpdaterPuzzleHash inner)

/-- The same over the metadata of a record. -/
def storePuzzleHash (sdk : Sdk Allocator) (launcherId : Bytes32) (metadata : DigDataStoreMetadata)
    (inner : Bytes32) : Bytes32 :=
  layeredPuzzleHash sdk launcherId metadata.toClvm inner

/-- The store the SDK's mint reports, and the launcher spend it stages. -/
structure MintLaw (sdk : Sdk Allocator) : Prop extends StagingLaw sdk where
  store : ∀ {launcher metadata owner set ctx minted after},
    sdk.launcherMintDatastore launcher metadata owner set ctx = (.ok minted, after) →
    ∃ inner, authorityPuzzleHash sdk (sdk.coinId launcher.coin) owner set = .ok inner ∧
      minted.2 = ⟨⟨sdk.coinId launcher.coin, storePuzzleHash sdk (sdk.coinId launcher.coin) metadata inner,
          launcher.singletonAmount⟩,
        .eve ⟨launcher.coin.parentCoinInfo, launcher.coin.amount⟩,
        ⟨sdk.coinId launcher.coin, metadata, owner, set⟩⟩ ∧
      ∀ spend, after.coinSpends = ctx.coinSpends ++ [spend] →
        (∃ puzzle, sdk.programToClvm spend.puzzleReveal = .ok puzzle ∧
          sdk.treeHash puzzle = sdk.singletonLauncherHash) ∧
        ∃ solution, sdk.programToClvm spend.solution = .ok solution ∧
          sdk.launcherSolution solution = some ⟨minted.2.coin.puzzleHash, launcher.singletonAmount,
            metadata.toClvm, inner, if set = [] then [] else sdk.recreationMemos owner set⟩

/-- The spend of an intermediate launcher coin: a worthless child of the given coin,
whose puzzle is curried with these arguments. -/
structure IsIntermediate (sdk : Sdk Allocator) (parentCoinId : Bytes32) (args : NftIntermediateLauncherArgs)
    (spend : CoinSpend) : Prop where
  puzzle : ∃ puzzle curried, sdk.programToClvm spend.puzzleReveal = .ok puzzle ∧
    spend.coin = ⟨parentCoinId, sdk.treeHash puzzle, 0⟩ ∧ sdk.asCurried puzzle = some curried ∧
    curried.modHash = sdk.nftIntermediateLauncherHash ∧
    sdk.nftIntermediateLauncherArgs curried.args = some args
  solution : ∃ solution, sdk.programToClvm spend.solution = .ok solution

/-- An intermediate launch stages such a spend, which creates the launcher, and
`Did::parse` does not take its puzzle for a DID. -/
structure IntermediateLaw (sdk : Sdk Allocator) : Prop where
  created : ∀ {parentCoinId mintNumber mintTotal ctx launcher after},
    sdk.intermediateLauncherCreate parentCoinId mintNumber mintTotal ctx = (.ok launcher, after) →
    ∃ spend, after.coinSpends = ctx.coinSpends ++ [spend] ∧
      IsIntermediate sdk parentCoinId ⟨sdk.singletonLauncherHash, mintNumber.toNat, mintTotal.toNat⟩ spend ∧
      launcher.coin = ⟨sdk.coinId spend.coin, sdk.singletonLauncherHash, 1⟩
  notDid : ∀ {coin puzzle solution curried}, sdk.asCurried puzzle = some curried →
    curried.modHash = sdk.nftIntermediateLauncherHash → sdk.didParse coin puzzle solution = .ok none

/-- The intermediate launcher's puzzle over curried arguments. A puzzle curried over its mod
hash has its tree hash over the same arguments, and whatever the solution it emits exactly
one creation, of one mojo at its curried launcher puzzle hash. -/
structure IntermediateRunLaw (sdk : Sdk Allocator) (intermediatePuzzle : Clvm → Clvm) : Prop where
  hash : ∀ {puzzle curried}, sdk.asCurried puzzle = some curried →
    curried.modHash = sdk.nftIntermediateLauncherHash →
    sdk.treeHash puzzle = sdk.treeHash (intermediatePuzzle curried.args)
  emits : ∀ {node args} solution, sdk.nftIntermediateLauncherArgs node = some args →
    ∃ conditions memos, sdk.emitted (intermediatePuzzle node) solution = .ok conditions ∧
      conditions.filterMap Condition.created? = [⟨args.launcherPuzzleHash, 1, memos⟩]

/-- With the launcher id alone the inner puzzle is the owner, and the memos of a
hinted set name its owner and set. -/
structure MemoLaw (sdk : Sdk Allocator) : Prop where
  bare : ∀ launcherId metadata inner,
    sdk.memoAuthority launcherId metadata inner [launcherId.bytes] = .ok (inner, [])
  hinted : ∀ launcherId metadata inner owner set, set ≠ [] →
    sdk.memoAuthority launcherId metadata inner (launcherId.bytes :: sdk.recreationMemos owner set) =
      .ok (owner, set)
  nonempty : ∀ owner set, set ≠ [] → sdk.recreationMemos owner set ≠ []

/-- The record of a store coin whose memos name its authority. -/
def buildDatastore (sdk : Sdk Allocator) (coin : Coin) (launcherId : Bytes32) (proof : Proof)
    (metadata : DigDataStoreMetadata) (inner : Bytes32) (memos : List (List UInt8)) :
    Except DriverError (Datastore DigDataStoreMetadata) := do
  let authority ← sdk.memoAuthority launcherId metadata inner memos
  return ⟨coin, proof, ⟨launcherId, metadata, authority.1, authority.2⟩⟩

def readMetadata (sdk : Sdk Allocator) (node : Clvm) : Except DriverError DigDataStoreMetadata :=
  (DigDataStoreMetadata.fromClvm node).mapError sdk.fromClvmDriverError

theorem readMetadata_eq_ok {sdk : Sdk Allocator} {node : Clvm} {metadata : DigDataStoreMetadata} :
    readMetadata sdk node = .ok metadata ↔ DigDataStoreMetadata.fromClvm node = .ok metadata :=
  except_mapError_eq_ok

/-- The child's metadata: the replacement if one was emitted, else the parent's. -/
def childMetadata (sdk : Sdk Allocator) (view : StoreSpend) (conditions : Conditions) :
    Except DriverError DigDataStoreMetadata := do
  let current ← readMetadata sdk view.metadata
  match newMetadataNodes conditions with
  | [] => .ok current
  | metadata :: _ => readMetadata sdk metadata

def childCoin (sdk : Sdk Allocator) (coin : Coin) (view : StoreSpend) (metadata : DigDataStoreMetadata)
    (created : CreateCoin) : Coin :=
  ⟨sdk.coinId coin,
    sdk.singletonCurryTreeHash view.launcherId (sdk.nftStateLayerTreeHash (sdk.treeHash metadata.toClvm)
      view.metadataUpdaterPuzzleHash created.puzzleHash),
    created.amount⟩

def lineageOf (sdk : Sdk Allocator) (coin : Coin) (view : StoreSpend) : Proof :=
  .lineage ⟨coin.parentCoinInfo, view.stateLayerHash sdk, coin.amount⟩

/-- The authority read off a delegation layer: an innermost recreation to some
other puzzle leaves the layer, and anything else keeps the layer's owner and the
set the caller knows. -/
def layerAuthority (sdk : Sdk Allocator) (view : StoreSpend) (layer : DelegationSpend)
    (conditions : Conditions) (set : List DelegatedPuzzle) : Bytes32 × List DelegatedPuzzle :=
  match oddCreateCoins conditions with
  | [] => (layer.ownerPuzzleHash, set)
  | created :: _ =>
    if created.puzzleHash = sdk.treeHash view.innerPuzzle then (layer.ownerPuzzleHash, set)
    else (created.puzzleHash, [])

/-- The owner and set of a child recreated with fewer than two memos. -/
def carriedAuthority (sdk : Sdk Allocator) (view : StoreSpend) (set : List DelegatedPuzzle) :
    Except DriverError (Bytes32 × List DelegatedPuzzle) :=
  match sdk.delegationSpend view.innerPuzzle view.innerSolution with
  | none => .ok (sdk.treeHash view.innerPuzzle, [])
  | some layer => do
    let conditions ← sdk.emitted layer.puzzle layer.solution
    return layerAuthority sdk view layer conditions set

def recreatedStore (sdk : Sdk Allocator) (coin : Coin) (view : StoreSpend) (conditions : Conditions)
    (created : CreateCoin) (memos : List (List UInt8)) (set : List DelegatedPuzzle) :
    Except DriverError (Datastore DigDataStoreMetadata) := do
  let metadata ← childMetadata sdk view conditions
  if 2 ≤ memos.length then
    buildDatastore sdk (childCoin sdk coin view metadata created) view.launcherId (lineageOf sdk coin view)
      metadata created.puzzleHash memos
  else do
    let authority ← carriedAuthority sdk view set
    return ⟨childCoin sdk coin view metadata created, lineageOf sdk coin view,
      ⟨view.launcherId, metadata, authority.1, authority.2⟩⟩

/-- In the legacy layout a launcher lists a bare root hash in place of a metadata node. -/
def LauncherSolution.legacyRoot (opened : LauncherSolution) : Option Bytes32 :=
  (BytesImpl.fromClvm 32 opened.metadata).toOption

def LauncherSolution.record (opened : LauncherSolution) : Except FromClvmError DigDataStoreMetadata :=
  match opened.legacyRoot with
  | some root => .ok (.rootHashOnly root)
  | none => DigDataStoreMetadata.fromClvm opened.metadata

def LauncherSolution.childMemos (sdk : Sdk Allocator) (launcherId : Bytes32) (opened : LauncherSolution) :
    List (List UInt8) :=
  match opened.legacyRoot with
  | some _ => sdk.legacyMemos launcherId opened.memos
  | none => launcherId.bytes :: opened.memos

theorem LauncherSolution.legacyRoot_eq_none {opened : LauncherSolution} {metadata : DigDataStoreMetadata}
    (decoded : DigDataStoreMetadata.fromClvm opened.metadata = .ok metadata) : opened.legacyRoot = none := by
  cases node : opened.metadata with
  | atom bytes =>
    rw [node] at decoded
    cases decoded
  | pair first rest =>
    rw [legacyRoot, node]
    rfl

theorem LauncherSolution.current {opened : LauncherSolution} {metadata : DigDataStoreMetadata}
    (decoded : DigDataStoreMetadata.fromClvm opened.metadata = .ok metadata) (sdk : Sdk Allocator)
    (launcherId : Bytes32) :
    opened.record = .ok metadata ∧ opened.childMemos sdk launcherId = launcherId.bytes :: opened.memos := by
  rw [record, childMemos, legacyRoot_eq_none decoded]
  exact ⟨decoded, rfl⟩

def launchedStore (sdk : Sdk Allocator) (coin : Coin) (opened : LauncherSolution) :
    Except DriverError (Datastore DigDataStoreMetadata) := do
  let metadata ← opened.record.mapError sdk.fromClvmDriverError
  buildDatastore sdk ⟨sdk.coinId coin, opened.singletonPuzzleHash, opened.amount⟩ (sdk.coinId coin)
    (.eve ⟨coin.parentCoinInfo, coin.amount⟩) metadata opened.innerPuzzleHash
    (opened.childMemos sdk (sdk.coinId coin))

/-- What a launcher is read as: a store under its own coin id, whose authority its memos name. -/
theorem launchedStore_eq_ok {sdk : Sdk Allocator} {coin : Coin} {opened : LauncherSolution}
    {store : Datastore DigDataStoreMetadata} :
    launchedStore sdk coin opened = .ok store ↔ ∃ metadata owner set, opened.record = .ok metadata ∧
      sdk.memoAuthority (sdk.coinId coin) metadata opened.innerPuzzleHash
        (opened.childMemos sdk (sdk.coinId coin)) = .ok (owner, set) ∧
      store = ⟨⟨sdk.coinId coin, opened.singletonPuzzleHash, opened.amount⟩,
        .eve ⟨coin.parentCoinInfo, coin.amount⟩, ⟨sdk.coinId coin, metadata, owner, set⟩⟩ := by
  simp only [launchedStore, buildDatastore, except_bind_eq_ok, except_mapError_eq_ok]
  constructor
  · intro read
    rcases read with ⟨metadata, decoded, authority, named, built⟩
    cases built
    exact ⟨metadata, authority.1, authority.2, decoded, named, rfl⟩
  · intro named
    rcases named with ⟨metadata, owner, set, decoded, named, rfl⟩
    exact ⟨metadata, decoded, (owner, set), named, rfl⟩

/-- A store coin's spend that recreates the store. -/
structure Recreation (sdk : Sdk Allocator) (spend : CoinSpend) (view : StoreSpend) (conditions : Conditions)
    (created : CreateCoin) (memos : List (List UInt8)) : Prop where
  singleton : spend.coin.puzzleHash ≠ sdk.singletonLauncherHash
  shape : IsStoreSpend sdk spend view
  emitted : sdk.emitted view.innerPuzzle view.innerSolution = .ok conditions
  odd : oddCreateCoins conditions = [created]
  once : (newMetadataNodes conditions).length ≤ 1
  listed : memoList created.memos = some memos

/-- `Datastore::from_spend` reads a launcher's child off the solution, and any other child
off the conditions that the puzzle under the state layer emits. Of several odd coins, as a
listed puzzle's spend may leave, it takes one. -/
structure FromSpendLaw (sdk : Sdk Allocator) : Prop where
  launched : ∀ {spend solution opened set}, spend.coin.puzzleHash = sdk.singletonLauncherHash →
    sdk.programToClvm spend.solution = .ok solution → sdk.launcherSolution solution = some opened →
    ∀ store, sdk.fromSpend spend set = .ok (some store) ↔ launchedStore sdk spend.coin opened = .ok store
  misplaced : ∀ {spend view} set, spend.coin.puzzleHash = sdk.singletonLauncherHash →
    IsStoreSpend sdk spend view → ∃ error, sdk.fromSpend spend set = .error error
  child : ∀ {spend view conditions} set,
    spend.coin.puzzleHash ≠ sdk.singletonLauncherHash → IsStoreSpend sdk spend view →
    sdk.emitted view.innerPuzzle view.innerSolution = .ok conditions → oddCreateCoins conditions ≠ [] →
    (newMetadataNodes conditions).length ≤ 1 →
    (∀ created ∈ oddCreateCoins conditions, ∃ memos, memoList created.memos = some memos) →
    ∃ created ∈ oddCreateCoins conditions, ∃ memos, memoList created.memos = some memos ∧
      ∀ store, sdk.fromSpend spend set = .ok (some store) ↔
        recreatedStore sdk spend.coin view conditions created memos set = .ok store
  stuck : ∀ {spend view error} set,
    spend.coin.puzzleHash ≠ sdk.singletonLauncherHash → IsStoreSpend sdk spend view →
    sdk.emitted view.innerPuzzle view.innerSolution = .error error →
    ∃ error, sdk.fromSpend spend set = .error error

theorem FromSpendLaw.recreated {sdk : Sdk Allocator} (fromSpend : FromSpendLaw sdk) {spend : CoinSpend}
    {view : StoreSpend} {conditions : Conditions} {created : CreateCoin} {memos : List (List UInt8)}
    {set : List DelegatedPuzzle} {store : Datastore DigDataStoreMetadata}
    (recreation : Recreation sdk spend view conditions created memos) :
    sdk.fromSpend spend set = .ok (some store) ↔
      recreatedStore sdk spend.coin view conditions created memos set = .ok store := by
  have listed : ∀ odd ∈ oddCreateCoins conditions, ∃ memos, memoList odd.memos = some memos := by
    intro odd member
    rw [recreation.odd, List.mem_singleton] at member
    exact ⟨memos, member ▸ recreation.listed⟩
  obtain ⟨taken, member, read, shown, parsed⟩ := fromSpend.child set recreation.singleton recreation.shape
    recreation.emitted (by simp [recreation.odd]) recreation.once listed
  rw [recreation.odd, List.mem_singleton] at member
  subst member
  cases recreation.listed.symm.trans shown
  exact parsed store

/-- A launcher's spend is only read when its solution opens a store, in either layout. -/
structure LauncherReadLaw (sdk : Sdk Allocator) : Prop where
  unopened : ∀ {spend} set, spend.coin.puzzleHash = sdk.singletonLauncherHash →
    (∀ solution opened, sdk.programToClvm spend.solution = .ok solution →
      sdk.launcherSolution solution ≠ some opened) → Fails (sdk.fromSpend spend set)

/-- What identifies a store is read from the coin of a launcher, and from the coin and
the revealed puzzle of any other spend, whatever the solution. -/
structure IdentityLaw (sdk : Sdk Allocator) : Prop where
  launched : ∀ {spend set store}, sdk.fromSpend spend set = .ok (some store) →
    spend.coin.puzzleHash = sdk.singletonLauncherHash →
    store.info.launcherId = sdk.coinId spend.coin ∧
      store.proof = .eve ⟨spend.coin.parentCoinInfo, spend.coin.amount⟩
  recreated : ∀ {spend set store}, sdk.fromSpend spend set = .ok (some store) →
    spend.coin.puzzleHash ≠ sdk.singletonLauncherHash →
    ∃ view, IsStoreSpend sdk spend view ∧ store.info.launcherId = view.launcherId ∧
      store.proof = lineageOf sdk spend.coin view
  puzzleAlone : ∀ {puzzle solution solution' view view'}, sdk.storeSpend puzzle solution = some view →
    sdk.storeSpend puzzle solution' = some view' →
    view.launcherId = view'.launcherId ∧ view.stateLayerHash sdk = view'.stateLayerHash sdk

/-- The groups that the building of a store's spend relies on. -/
structure SpendLaws (sdk : Sdk Allocator) : Prop where
  curry : CurryLaw sdk
  standard : StandardLaw sdk
  storeSpend : StoreSpendLaw sdk
  condition : ConditionLaw sdk

/-- Those that running an update's spend and reading its child rely on as well. -/
structure UpdateLaws (sdk : Sdk Allocator) : Prop extends SpendLaws sdk where
  delegation : DelegationLaw sdk
  memo : MemoLaw sdk
  fromSpend : FromSpendLaw sdk

/-- `Did::parse` takes the launcher id from the puzzle alone, and only from a
puzzle whose outer mod is the singleton top layer. -/
structure DidParseLaw (sdk : Sdk Allocator) : Prop where
  puzzle_alone : ∀ {coin coin' puzzle solution solution' did did'},
    sdk.didParse coin puzzle solution = .ok (some did) →
    sdk.didParse coin' puzzle solution' = .ok (some did') → did = did'
  singleton : ∀ {coin puzzle solution did}, sdk.didParse coin puzzle solution = .ok (some did) →
    ∃ curried, sdk.asCurried puzzle = some curried ∧ curried.modHash = sdk.singletonTopLayerHash
  distinct_mods : sdk.singletonTopLayerHash ≠ sdk.nftIntermediateLauncherHash

/-- A puzzle that is curried over some other mod than the singleton top layer's or the
intermediate launcher's. -/
def IsOrdinary (sdk : Sdk Allocator) (puzzle : Clvm) : Prop :=
  ∃ curried, sdk.asCurried puzzle = some curried ∧ curried.modHash ≠ sdk.singletonTopLayerHash ∧
    curried.modHash ≠ sdk.nftIntermediateLauncherHash

/-- The standard puzzle has a mod of its own, and `Did::parse` takes a puzzle with another
mod than the singleton's for no DID. -/
structure OrdinaryPuzzleLaw (sdk : Sdk Allocator) : Prop where
  standard : ∀ publicKey, IsOrdinary sdk (sdk.standardPuzzle publicKey)
  notDid : ∀ {coin puzzle solution curried}, sdk.asCurried puzzle = some curried →
    curried.modHash ≠ sdk.singletonTopLayerHash → sdk.didParse coin puzzle solution = .ok none

end DigMerkle
