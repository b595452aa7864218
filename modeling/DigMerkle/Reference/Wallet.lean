import DigMerkle.Reference.Codec

/-! A small concrete SDK over the sample formats, which meets the assumed laws. Puzzles
are trees tagged by a one-byte atom, which stands for their mod. -/

namespace DigMerkle.Reference

open Library

def failure (message : String) : DriverError := ⟨.other, message⟩

def standardPuzzle (publicKey : PublicKey) : Clvm := .pair (.atom [112]) publicKey.toClvm

def singletonMod : Clvm := .atom [115]

def intermediateMod : Clvm := .atom [105]

def launcherPuzzle : Clvm := .atom [108]

def singletonPuzzle (launcherId : Bytes32) (inner : Clvm) : Clvm :=
  .pair singletonMod (.pair launcherId.toClvm inner)

def statePuzzle (metadata : Clvm) (updater : Bytes32) (inner : Clvm) : Clvm :=
  .pair (.atom [110]) (.pair metadata (.pair updater.toClvm inner))

def delegationPuzzle (launcherId owner root : Bytes32) : Clvm :=
  .pair (.atom [100]) (.pair launcherId.toClvm (.pair owner.toClvm root.toClvm))

def asDelegation : Clvm → Option (Bytes32 × Bytes32 × Bytes32)
  | .pair (.atom [100]) (.pair (.atom launcherId) (.pair (.atom owner) (.atom root))) => do
    return (← bytes32? launcherId, ← bytes32? owner, ← bytes32? root)
  | _ => none

def pairHash (first rest : Bytes32) : Bytes32 := digest (2 :: first.bytes ++ rest.bytes)

def singletonCurryTreeHash (launcherId inner : Bytes32) : Bytes32 :=
  pairHash (treeHash singletonMod) (pairHash (treeHash launcherId.toClvm) inner)

def nftStateLayerTreeHash (metadataHash updater inner : Bytes32) : Bytes32 :=
  pairHash (treeHash (.atom [110])) (pairHash metadataHash (pairHash (treeHash updater.toClvm) inner))

def runPlain : Clvm → Clvm → Except DriverError Clvm
  | .pair (.atom [1]) output, _ => .ok output
  | .pair (.atom [112]) (.atom publicKey), conditions =>
    .ok (.pair (.pair (.atom [50]) (.atom publicKey)) conditions)
  | .pair (.atom [105]) (.pair launcherPuzzleHash _), _ =>
    .ok (.ofList [.pair (.atom [51]) (.pair launcherPuzzleHash (.pair (.atom (amountBytes 1)) (.atom [])))])
  | _, _ => .error (failure "clvm raise")

def listedIn (leaf : Clvm) : Clvm → Bool
  | .pair first rest => first == leaf || listedIn leaf rest
  | .atom _ => false

/-- The owner's puzzle is compared first and runs as it is. Any other must be listed in the
proof, which is the whole tree, and its conditions follow the layer's own recreation. -/
def run (puzzle : Clvm) : Clvm → Except DriverError Clvm
  | .pair proof (.pair inner innerSolution) =>
    match asDelegation puzzle with
    | none => runPlain puzzle (.pair proof (.pair inner innerSolution))
    | some (launcherId, owner, root) =>
      if treeHash inner = owner then run inner innerSolution
      else if treeHash proof = root ∧ listedIn (treeHash inner).toClvm proof = true then do
        let output ← run inner innerSolution
        return .pair (encodeCondition (.createCoin ⟨treeHash puzzle, 1, memosOf [launcherId.bytes]⟩)) output
      else .error (failure "not the owner")
  | solution => runPlain puzzle solution

def delegationSpend (puzzle : Clvm) : Clvm → Option DelegationSpend
  | .pair proof (.pair inner innerSolution) => do
    let (launcherId, owner, root) ← asDelegation puzzle
    return ⟨launcherId, owner, root, if proof = .atom [] then none else some proof, inner, innerSolution⟩
  | _ => none

def storeSpend : Clvm → Clvm → Option StoreSpend
  | .pair (.atom [115]) (.pair (.atom launcherId)
      (.pair (.atom [110]) (.pair metadata (.pair (.atom updater) inner)))),
    .pair (.atom [115]) solution => do
    return ⟨← bytes32? launcherId, metadata, ← bytes32? updater, inner, solution⟩
  | _, _ => none

def launcherSolution : Clvm → Option LauncherSolution
  | .pair (.atom [108]) (.pair (.atom puzzleHash) (.pair (.atom amount) (.pair metadata
      (.pair (.atom inner) memos)))) => do
    let memos ← (memos.decodeList Clvm.decodeAtom).toOption
    return ⟨← bytes32? puzzleHash, amountOf amount, metadata, ← bytes32? inner, memos⟩
  | _ => none

def encodeLauncherSolution (opened : LauncherSolution) : Clvm :=
  .pair (.atom [108]) (.pair opened.singletonPuzzleHash.toClvm (.pair (.atom (amountBytes opened.amount))
    (.pair opened.metadata (.pair opened.innerPuzzleHash.toClvm (.ofList (opened.memos.map .atom))))))

def asCurried : Clvm → Option CurriedPuzzle
  | .pair mod args => some ⟨treeHash mod, args⟩
  | .atom _ => none

/-- A DID is a singleton over an inner puzzle with the DID tag. -/
def didParse : Coin → Clvm → Clvm → Except DriverError (Option Bytes32)
  | _, .pair (.atom [115]) (.pair (.atom launcherId) (.pair (.atom [68]) _)), _ => .ok (bytes32? launcherId)
  | _, _, _ => .ok none

def recreationMemos (owner : Bytes32) (set : List DelegatedPuzzle) : List (List UInt8) :=
  owner.bytes :: set.map delegatedMemo

def memoAuthority (inner : Bytes32) : List (List UInt8) → Except DriverError (Bytes32 × List DelegatedPuzzle)
  | _ :: owner :: rest =>
    match bytes32? owner, setOfMemos rest with
    | some owner, some set => .ok (owner, set)
    | _, _ => .error ⟨.missingMemo, "missing memo"⟩
  | _ => .ok (inner, [])

def merkleTree (set : List DelegatedPuzzle) : Clvm := .ofList (set.map fun puzzle => (leafHash puzzle).toClvm)

def merkleRoot (set : List DelegatedPuzzle) : Bytes32 := treeHash (merkleTree set)

def merkleProof (set : List DelegatedPuzzle) (puzzleHash : Bytes32) : Option Clvm :=
  if puzzleHash ∈ set.map leafHash then some (merkleTree set) else none

def authority (launcherId owner : Bytes32) (set : List DelegatedPuzzle) : Bytes32 :=
  if set.isEmpty then owner else treeHash (delegationPuzzle launcherId owner (merkleRoot set))

def updaterHash : Bytes32 := treeHash (.atom [117])

def mintDatastore (launcher : Launcher) (metadata : DigDataStoreMetadata) (owner : Bytes32)
    (set : List DelegatedPuzzle) :
    Fallible DriverError (SpendContext Unit) (Conditions × Datastore DigDataStoreMetadata) := fun ctx =>
  let launcherId := coinId launcher.coin
  let inner := authority launcherId owner set
  let child : Coin := ⟨launcherId, singletonCurryTreeHash launcherId
    (nftStateLayerTreeHash (treeHash metadata.toClvm) updaterHash inner), launcher.singletonAmount⟩
  let solution := encodeLauncherSolution ⟨child.puzzleHash, launcher.singletonAmount, metadata.toClvm, inner,
    if set = [] then [] else recreationMemos owner set⟩
  (.ok (launcher.conditions ++ [.assertCoinAnnouncement (digest (launcherId.bytes ++ child.puzzleHash.bytes))],
    ⟨child, .eve ⟨launcher.coin.parentCoinInfo, launcher.coin.amount⟩, ⟨launcherId, metadata, owner, set⟩⟩),
    { ctx with coinSpends := ctx.coinSpends ++ [⟨launcher.coin, serialize launcherPuzzle, serialize solution⟩] })

/-- An intermediate launcher's puzzle, curried with the two mint numbers. -/
def numberedPuzzle (mintNumber mintTotal : UInt64) : Clvm :=
  .pair intermediateMod (.pair (treeHash launcherPuzzle).toClvm
    (.pair (.atom (amountBytes mintNumber)) (.atom (amountBytes mintTotal))))

def mintNumbers : Clvm → Nat × Nat
  | .pair (.atom mintNumber) (.atom mintTotal) => ((amountOf mintNumber).toNat, (amountOf mintTotal).toNat)
  | _ => (0, 1)

def createIntermediate (parentCoinId : Bytes32) (mintNumber mintTotal : UInt64) :
    Fallible DriverError (SpendContext Unit) Launcher := fun ctx =>
  let puzzle := numberedPuzzle mintNumber mintTotal
  let coin : Coin := ⟨parentCoinId, treeHash puzzle, 0⟩
  (.ok ⟨⟨coinId coin, treeHash launcherPuzzle, 1⟩, [.createCoin ⟨coin.puzzleHash, 0, .none⟩], 1⟩,
    { ctx with coinSpends := ctx.coinSpends ++ [⟨coin, serialize puzzle, serialize (.atom [])⟩] })

/-- The puzzle and the solution under the state layer of a store. -/
def innerLayers (info : DatastoreInfo DigDataStoreMetadata) (inner : Spend) : Clvm × Clvm :=
  if info.delegatedPuzzles.isEmpty then (inner.puzzle, inner.solution) else
    (delegationPuzzle info.launcherId info.ownerPuzzleHash (merkleRoot info.delegatedPuzzles),
      .pair ((merkleProof info.delegatedPuzzles (treeHash inner.puzzle)).getD (.atom []))
        (.pair inner.puzzle inner.solution))

def datastoreSpend (store : Datastore DigDataStoreMetadata) (inner : Spend) : CoinSpend :=
  let layers := innerLayers store.info inner
  ⟨store.coin,
    serialize (singletonPuzzle store.info.launcherId
      (statePuzzle store.info.metadata.toClvm updaterHash layers.1)),
    serialize (.pair singletonMod layers.2)⟩

/-- Everything but the reading of a store's spend. -/
def base : Sdk Unit where
  newAllocator := ()
  sha256 := digest
  treeHash := treeHash
  coinId := coinId
  singletonLauncherHash := treeHash launcherPuzzle
  nftIntermediateLauncherHash := treeHash intermediateMod
  singletonTopLayerHash := treeHash singletonMod
  dlMetadataUpdaterPuzzleHash := updaterHash
  standardCurryTreeHash publicKey := treeHash (standardPuzzle publicKey)
  singletonCurryTreeHash := singletonCurryTreeHash
  delegationLayerCurryTreeHash launcherId owner root := treeHash (delegationPuzzle launcherId owner root)
  nftStateLayerTreeHash := nftStateLayerTreeHash
  leafHash := leafHash
  merkleRoot set := .ok (merkleRoot set)
  merkleProof := merkleProof
  programToClvm := deserialize
  toClvmDriverError := failure
  fromClvmDriverError _ := failure "from clvm"
  fromClvmErrorText _ := "from clvm"
  run := run
  conditionsFromClvm := decodeConditions
  asCurried := asCurried
  nftIntermediateLauncherArgs
    | .pair (.atom launcherPuzzleHash) numbers => (bytes32? launcherPuzzleHash).map fun hash =>
      ⟨hash, (mintNumbers numbers).1, (mintNumbers numbers).2⟩
    | _ => none
  launcherSolution := launcherSolution
  storeSpend := storeSpend
  delegationSpend := delegationSpend
  didParse := didParse
  recreationMemos := recreationMemos
  recreationAmount := 1
  legacyMemos launcherId memos := launcherId.bytes :: memos
  alloc _ := pure ()
  memos hints := pure (memosOf (hints.map BytesImpl.bytes))
  hint hint := pure (memosOf [hint.bytes])
  standardPuzzle := standardPuzzle
  standardSpendWithConditions publicKey conditions :=
    pure ⟨standardPuzzle publicKey, encodeConditions conditions⟩
  launcherNew parentCoinId amount :=
    ⟨⟨parentCoinId, treeHash launcherPuzzle, amount⟩,
      [.createCoin ⟨treeHash launcherPuzzle, amount, .none⟩], amount⟩
  intermediateLauncherCreate := createIntermediate
  launcherMintDatastore := mintDatastore
  newMetadataCondition metadata := pure (.newMetadata metadata.toClvm)
  ownerCreateCoinCondition launcherId owner set hinted :=
    pure (.createCoin ⟨authority launcherId owner set, 1, memosOf
      (launcherId.bytes :: if hinted then recreationMemos owner set else [])⟩)
  datastoreSpend store inner := pure (datastoreSpend store inner)
  contextSpend coin spend := fun ctx =>
    (.ok (), { ctx with
      coinSpends := ctx.coinSpends ++ [⟨coin, serialize spend.puzzle, serialize spend.solution⟩] })
  memoAuthority _ _ := memoAuthority
  fromSpend _ _ := .ok none

/-- Of several odd coins the first is taken. -/
def readRecreation (coin : Coin) (view : StoreSpend) (set : List DelegatedPuzzle) :
    Except DriverError (Datastore DigDataStoreMetadata) := do
  let conditions ← base.emitted view.innerPuzzle view.innerSolution
  match oddCreateCoins conditions with
  | created :: _ => match memoList created.memos with
    | some memos => recreatedStore base coin view conditions created memos set
    | none => .error ⟨.missingMemo, "missing memo"⟩
  | [] => .error ⟨.missingChild, "missing child"⟩

def readSpend (spend : CoinSpend) (set : List DelegatedPuzzle) :
    Except DriverError (Option (Datastore DigDataStoreMetadata)) := do
  let solution ← (deserialize spend.solution).mapError failure
  if spend.coin.puzzleHash = treeHash launcherPuzzle then
    match launcherSolution solution with
    | some opened => (launchedStore base spend.coin opened).map some
    | none => .error (failure "not a launcher solution")
  else do
    let puzzle ← (deserialize spend.puzzleReveal).mapError failure
    match storeSpend puzzle solution with
    | some view => (readRecreation spend.coin view set).map some
    | none => .ok none

/-- The concrete SDK. -/
def wallet : Sdk Unit := { base with fromSpend := readSpend }

def hash32 (byte : UInt8) : Bytes32 := ⟨List.replicate 32 byte, List.length_replicate⟩

def key (byte : UInt8) : PublicKey := ⟨List.replicate 48 byte, List.length_replicate⟩

def ownerKey : PublicKey := key 5

def ownerHash : Bytes32 := wallet.standardCurryTreeHash ownerKey

def metadata : DigDataStoreMetadata := .rootHashOnly (hash32 90)

/-- A coin's puzzle that creates a launcher. -/
def intermediatePuzzle : Clvm := .pair intermediateMod (.pair wallet.singletonLauncherHash.toClvm (.atom []))

end DigMerkle.Reference
