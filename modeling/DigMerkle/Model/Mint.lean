import DigMerkle.Model.Sdk
import Mathlib.Algebra.Group.Nat.Defs

namespace DigMerkle

open Library

def digstoreOwnerHintDomain : List UInt8 := "dig:datastore:owner:v1".toUTF8.data.toList

def datastoreLauncherHint : Bytes32 :=
  ⟨[0xaa, 0x7e, 0x5b, 0x23, 0x4e, 0x1d, 0x55, 0x96, 0x7b, 0xf0, 0xa3, 0x16, 0x39, 0x5a, 0x2e, 0xab,
    0x6c, 0xb3, 0x37, 0x03, 0x32, 0xc0, 0xf2, 0x51, 0xf0, 0xe4, 0x4a, 0x5a, 0xfb, 0x84, 0xfc, 0x68], rfl⟩

def didProfileLauncherHint : Bytes32 :=
  ⟨[0x9c, 0x1d, 0x6b, 0x6d, 0x5d, 0x53, 0x0d, 0xd6, 0x13, 0xf4, 0xd7, 0xd2, 0xce, 0xd6, 0xb7, 0x04,
    0xae, 0x84, 0x23, 0x37, 0x7e, 0x4d, 0x56, 0x75, 0x18, 0x49, 0x31, 0x59, 0xc1, 0xd2, 0x1d, 0x01], rfl⟩

/-- The kind of a store, carried by the second launcher memo. -/
inductive StoreKind where
  | file
  | didProfile
  deriving DecidableEq

def launcherHintFor : StoreKind → Bytes32
  | .file => datastoreLauncherHint
  | .didProfile => didProfileLauncherHint

/-- The kind that a launcher memo names, if it is a known one. -/
def fromLauncherHint (memo : Bytes32) : Option StoreKind :=
  if memo = datastoreLauncherHint then some .file
  else if memo = didProfileLauncherHint then some .didProfile
  else none

theorem fromLauncherHint_launcherHintFor (kind : StoreKind) : fromLauncherHint (launcherHintFor kind) = some kind := by
  cases kind <;> rfl

def digstoreOwnerHint (sdk : Sdk Allocator) (ownerPuzzleHash : Bytes32) : Bytes32 :=
  sdk.sha256 (digstoreOwnerHintDomain ++ ownerPuzzleHash.bytes)

/-- A launch without the parent coin's spend, which must emit `parentConditions`. -/
structure DatastoreLaunch where
  parentConditions : Conditions
  datastore : Datastore DigDataStoreMetadata
  launcherMemosWritten : Bool

def assertMintedSingletonAmountIsOdd (singletonAmount : UInt64) : MerkleResult Unit :=
  if singletonAmount % 2 = 0 then
    .error (.chain s!"the store singleton's amount would be {singletonAmount}, which is even — a singleton's amount must be odd, and an even-amount launch is accepted on chain but produces a store that can never be updated or melted")
  else .ok ()

def assertLauncherIsLegal (sdk : Sdk Allocator) (launcherCoin : Coin) (singletonAmount : UInt64) :
    MerkleResult Unit :=
  if launcherCoin.puzzleHash ≠ sdk.singletonLauncherHash then
    .error (.chain s!"the supplied launcher coin's puzzle hash is {launcherCoin.puzzleHash.hex}, not the singleton launcher puzzle — it would not mint a store singleton")
  else assertMintedSingletonAmountIsOdd singletonAmount

/-- The coins that conditions create, each under the id of the spent coin. -/
def Condition.created? : Condition → Option CreateCoin
  | .createCoin created => some created
  | _ => none

def createsCoin (conditions : Conditions) (puzzleHash : Bytes32) (amount : UInt64) : Bool :=
  conditions.any fun condition => match condition.created? with
    | some created => created.puzzleHash = puzzleHash && created.amount = amount
    | none => false

def stagedSpendOf (sdk : Sdk Allocator) (ctx : SpendContext Allocator) (coinId : Bytes32) : Option CoinSpend :=
  ctx.coinSpends.find? fun spend => sdk.coinId spend.coin = coinId

def spendCreates (sdk : Sdk Allocator) (spend : CoinSpend) (expected : Coin) : InContext Allocator Bool := do
  let puzzle ← allocProgram sdk spend.puzzleReveal
  let solution ← allocProgram sdk spend.solution
  let output ← .ofExcept ((sdk.run puzzle solution).mapError .driver)
  let conditions ← .ofExcept ((sdk.conditionsFromClvm output).mapError fun error =>
    .parse s!"intermediate spend conditions: {sdk.fromClvmErrorText error}")
  let parentId := sdk.coinId spend.coin
  return conditions.any fun condition => match condition.created? with
    | some created => sdk.coinId ⟨parentId, created.puzzleHash, created.amount⟩ = sdk.coinId expected
    | none => false

/-- The conditions create the launcher themselves, or a staged coin that does. -/
def assertLaunchReachesTheLauncher (sdk : Sdk Allocator) (conditions : Conditions) (launcherCoin : Coin) :
    InContext Allocator Unit :=
  if createsCoin conditions launcherCoin.puzzleHash launcherCoin.amount then pure () else do
    let staged ← .read (stagedSpendOf sdk · launcherCoin.parentCoinInfo)
    match staged with
    | none => .fail (.chain "launch conditions do not create the launcher coin, and no staged spend creates it either — the supplied Launcher is unreachable from this parent")
    | some intermediate =>
      if createsCoin conditions intermediate.coin.puzzleHash intermediate.coin.amount then do
        let creates ← spendCreates sdk intermediate launcherCoin
        if creates then pure ()
        else .fail (.chain "the intermediate coin's spend does not create the launcher coin")
      else .fail (.chain "launch conditions do not create the intermediate coin the launcher descends from")

/-- Whether a created coin is the launcher, taking the launcher's own parent as its parent. -/
def isThisLauncher (sdk : Sdk Allocator) (launcherCoin : Coin) (created : CreateCoin) : Bool :=
  sdk.coinId ⟨launcherCoin.parentCoinInfo, created.puzzleHash, created.amount⟩ = sdk.coinId launcherCoin

/-- Stamp one condition if it creates the launcher, and say whether it did. -/
def overrideCondition (sdk : Sdk Allocator) (launcherCoin : Coin) (ownerPuzzleHash : Bytes32)
    (kind : StoreKind) : Condition → InContext Allocator (Condition × Bool)
  | .createCoin created =>
    if isThisLauncher sdk launcherCoin created then do
      let memos ← allocating (sdk.memos [digstoreOwnerHint sdk ownerPuzzleHash, launcherHintFor kind])
      return (.createCoin { created with memos }, true)
    else pure (.createCoin created, false)
  | condition => pure (condition, false)

/-- The launcher's `CREATE_COIN` rewritten front to back, and whether there was one. -/
def overrideLauncherHint (sdk : Sdk Allocator) (launcherCoin : Coin) (ownerPuzzleHash : Bytes32)
    (kind : StoreKind) : Conditions → InContext Allocator (Conditions × Bool)
  | [] => pure ([], false)
  | condition :: conditions => do
    let rewritten ← overrideCondition sdk launcherCoin ownerPuzzleHash kind condition
    let rest ← overrideLauncherHint sdk launcherCoin ownerPuzzleHash kind conditions
    return (rewritten.1 :: rest.1, rewritten.2 || rest.2)

/-- Build a launch into the caller's context. The source's six metadata
arguments are the fields of `metadata`. -/
def mintDatastoreLaunchWithKind (sdk : Sdk Allocator) (kind : StoreKind) (launcher : Launcher)
    (metadata : DigDataStoreMetadata) (ownerPuzzleHash : Bytes32)
    (delegatedPuzzles : List DelegatedPuzzle) : InContext Allocator DatastoreLaunch := do
  Fallible.ofExcept (assertLauncherIsLegal sdk launcher.coin launcher.singletonAmount)
  let minted ← driving (sdk.launcherMintDatastore launcher metadata ownerPuzzleHash delegatedPuzzles)
  Fallible.ofExcept (assertMintedSingletonAmountIsOdd minted.2.coin.amount)
  let overridden ← overrideLauncherHint sdk launcher.coin ownerPuzzleHash kind minted.1
  assertLaunchReachesTheLauncher sdk overridden.1 launcher.coin
  return ⟨overridden.1, minted.2, overridden.2⟩

def checkedAdd (left right : UInt64) : Option UInt64 :=
  if left.toNat + right.toNat < 2 ^ 64 then some (left + right) else none

/-- What the launcher and the fee take from the parent coin. -/
def reservedAmount (fee : UInt64) : MerkleResult UInt64 :=
  match checkedAdd fee 1 with
  | some reserved => .ok reserved
  | none => .error (.chain "fee overflow: fee + 1 exceeds u64::MAX")

/-- The launch conditions with any surplus returned to the owner. -/
def ownerConditions (sdk : Sdk Allocator) (parentCoin : Coin) (ownerPuzzleHash : Bytes32) (reserved : UInt64)
    (launchConditions : Conditions) : InContext Allocator Conditions :=
  if parentCoin.amount > reserved then do
    let changeHint ← allocating (sdk.hint ownerPuzzleHash)
    return launchConditions ++
      [.createCoin ⟨ownerPuzzleHash, parentCoin.amount - reserved, changeHint⟩]
  else pure launchConditions

/-- The body of the mint once its owner is known not to be custom. -/
def mintInContext (sdk : Sdk Allocator) (kind : StoreKind) (parentCoin : Coin) (owner : Owner)
    (metadata : DigDataStoreMetadata) (ownerPuzzleHash : Bytes32)
    (delegatedPuzzles : List DelegatedPuzzle) (fee : UInt64) : InContext Allocator MerkleCoinSpend := do
  let launch ← mintDatastoreLaunchWithKind sdk kind (sdk.launcherNew (sdk.coinId parentCoin) 1) metadata
    ownerPuzzleHash delegatedPuzzles
  let reserved ← .ofExcept (reservedAmount fee)
  let conditions ← ownerConditions sdk parentCoin ownerPuzzleHash reserved launch.parentConditions
  let ownerSpend ← innerSpend sdk owner conditions
  driving (sdk.contextSpend parentCoin ownerSpend)
  let coinSpends ← drainCoinSpends
  return ⟨coinSpends, some launch.datastore⟩

def mintDatastoreWithKind (sdk : Sdk Allocator) (kind : StoreKind) (parentCoin : Coin) (owner : Owner)
    (metadata : DigDataStoreMetadata) (ownerPuzzleHash : Bytes32)
    (delegatedPuzzles : List DelegatedPuzzle) (fee : UInt64) : MerkleResult MerkleCoinSpend :=
  if owner.isCustom then
    .error (.unsupportedOwner "a launch's parent conditions are built inside this call, so Owner::Custom cannot emit them — use mint_datastore_launch_with_kind and compose the parent spend yourself")
  else
    (mintInContext sdk kind parentCoin owner metadata ownerPuzzleHash delegatedPuzzles fee sdk.newContext).1

def mintDatastore (sdk : Sdk Allocator) (parentCoin : Coin) (owner : Owner)
    (metadata : DigDataStoreMetadata) (ownerPuzzleHash : Bytes32)
    (delegatedPuzzles : List DelegatedPuzzle) (fee : UInt64) : MerkleResult MerkleCoinSpend :=
  mintDatastoreWithKind sdk .file parentCoin owner metadata ownerPuzzleHash delegatedPuzzles fee

end DigMerkle
