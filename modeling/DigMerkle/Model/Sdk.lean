import DigMerkle.Model.Metadata

/-! The wallet SDK as the crate calls it. Its operations are parameters of the
model. A node pointer is modelled by the tree it points to. The allocator is
threaded through the operations that encode values as nodes, and loading or
running a program depends on the program alone. -/

namespace DigMerkle

open Library

/-- The allocator of a call, with the coin spends staged so far. -/
structure SpendContext (Allocator : Type) where
  allocator : Allocator
  coinSpends : List CoinSpend

/-- What a curried puzzle shows when it is parsed. -/
structure CurriedPuzzle where
  modHash : Bytes32
  args : Clvm

structure NftIntermediateLauncherArgs where
  launcherPuzzleHash : Bytes32
  mintNumber : Nat
  mintTotal : Nat

/-- The solution of a launcher coin that starts a store. The legacy layout lists a bare root
hash for the metadata. -/
structure LauncherSolution where
  singletonPuzzleHash : Bytes32
  amount : UInt64
  metadata : Clvm
  innerPuzzleHash : Bytes32
  memos : List (List UInt8)

/-- The spend under a delegation layer. -/
structure DelegationSpend where
  launcherId : Bytes32
  ownerPuzzleHash : Bytes32
  merkleRoot : Bytes32
  merkleProof : Option Clvm
  puzzle : Clvm
  solution : Clvm
  deriving DecidableEq

/-- A store coin's spend, seen through its singleton and state layers. -/
structure StoreSpend where
  launcherId : Bytes32
  metadata : Clvm
  metadataUpdaterPuzzleHash : Bytes32
  innerPuzzle : Clvm
  innerSolution : Clvm

/-- The SDK's operations and puzzle constants. -/
structure Sdk (Allocator : Type) where
  newAllocator : Allocator
  sha256 : List UInt8 → Bytes32
  treeHash : Clvm → Bytes32
  coinId : Coin → Bytes32
  singletonLauncherHash : Bytes32
  nftIntermediateLauncherHash : Bytes32
  singletonTopLayerHash : Bytes32
  dlMetadataUpdaterPuzzleHash : Bytes32
  standardCurryTreeHash : PublicKey → Bytes32
  singletonCurryTreeHash : (launcherId innerPuzzleHash : Bytes32) → Bytes32
  delegationLayerCurryTreeHash : (launcherId ownerPuzzleHash merkleRoot : Bytes32) → Bytes32
  nftStateLayerTreeHash : (metadataHash updaterPuzzleHash innerPuzzleHash : Bytes32) → Bytes32
  /-- The puzzle hash a delegated puzzle is listed under. -/
  leafHash : DelegatedPuzzle → Bytes32
  merkleRoot : List DelegatedPuzzle → Except DriverError Bytes32
  merkleProof : List DelegatedPuzzle → Bytes32 → Option Clvm
  /-- Decoding a serialized program, or the rendered error. -/
  programToClvm : Program → Except String Clvm
  toClvmDriverError : String → DriverError
  fromClvmDriverError : FromClvmError → DriverError
  fromClvmErrorText : FromClvmError → String
  run : (puzzle solution : Clvm) → Except DriverError Clvm
  conditionsFromClvm : Clvm → Except FromClvmError Conditions
  asCurried : Clvm → Option CurriedPuzzle
  nftIntermediateLauncherArgs : Clvm → Option NftIntermediateLauncherArgs
  launcherSolution : Clvm → Option LauncherSolution
  storeSpend : (puzzle solution : Clvm) → Option StoreSpend
  delegationSpend : (puzzle solution : Clvm) → Option DelegationSpend
  /-- The launcher id of the DID that a spend is recognised as. -/
  didParse : Coin → (puzzle solution : Clvm) → Except DriverError (Option Bytes32)
  /-- The memos that follow the launcher id when a recreation hints its owner and set. -/
  recreationMemos : Bytes32 → List DelegatedPuzzle → List (List UInt8)
  recreationAmount : UInt64
  /-- The memos that the child of a legacy launcher is read with. -/
  legacyMemos : (launcherId : Bytes32) → (memos : List (List UInt8)) → List (List UInt8)
  alloc : Clvm → Fallible DriverError Allocator Unit
  memos : List Bytes32 → Fallible DriverError Allocator Memos
  hint : Bytes32 → Fallible DriverError Allocator Memos
  standardPuzzle : PublicKey → Clvm
  standardSpendWithConditions : PublicKey → Conditions → Fallible DriverError Allocator Spend
  launcherNew : (parentCoinId : Bytes32) → (amount : UInt64) → Launcher
  /-- `IntermediateLauncher::new` of a parent and two numbers, created in a context. -/
  intermediateLauncherCreate : (parentCoinId : Bytes32) → (mintNumber mintTotal : UInt64) →
    Fallible DriverError (SpendContext Allocator) Launcher
  launcherMintDatastore : Launcher → DigDataStoreMetadata → (ownerPuzzleHash : Bytes32) →
    List DelegatedPuzzle →
    Fallible DriverError (SpendContext Allocator) (Conditions × Datastore DigDataStoreMetadata)
  newMetadataCondition : DigDataStoreMetadata → Fallible DriverError Allocator Condition
  ownerCreateCoinCondition : (launcherId ownerPuzzleHash : Bytes32) → List DelegatedPuzzle →
    (hintDelegatedPuzzles : Bool) → Fallible DriverError Allocator Condition
  datastoreSpend : Datastore DigDataStoreMetadata → Spend → Fallible DriverError Allocator CoinSpend
  contextSpend : Coin → Spend → Fallible DriverError (SpendContext Allocator) Unit
  /-- The owner and the set that the memos of a store's creation name. -/
  memoAuthority : (launcherId : Bytes32) → DigDataStoreMetadata → (innerPuzzleHash : Bytes32) →
    (memos : List (List UInt8)) → Except DriverError (Bytes32 × List DelegatedPuzzle)
  fromSpend : CoinSpend → (parentDelegatedPuzzles : List DelegatedPuzzle) →
    Except DriverError (Option (Datastore DigDataStoreMetadata))

/-- A crate call that works in a spend context. -/
abbrev InContext (Allocator α : Type) := Fallible MerkleError (SpendContext Allocator) α

/-- An SDK call that touches nothing but the allocator. -/
def allocating (action : Fallible DriverError Allocator α) : InContext Allocator α :=
  Fallible.mapError .driver
    (Fallible.onPart SpendContext.allocator (fun allocator ctx => { ctx with allocator }) action)

/-- An SDK call on the whole context. -/
def driving (action : Fallible DriverError (SpendContext Allocator) α) : InContext Allocator α :=
  Fallible.mapError .driver action

theorem allocating_coinSpends (action : Fallible DriverError Allocator α) (ctx : SpendContext Allocator) :
    (allocating action ctx).2.coinSpends = ctx.coinSpends := rfl

theorem allocating_eq_ok {action : Fallible DriverError Allocator α} {ctx after : SpendContext Allocator} :
    allocating action ctx = (.ok value, after) ↔
      ∃ allocator, action ctx.allocator = (.ok value, allocator) ∧ after = { ctx with allocator } := by
  rw [allocating, Fallible.mapError_eq_ok, Fallible.onPart_eq_ok]

theorem driving_eq_ok {action : Fallible DriverError (SpendContext Allocator) α}
    {ctx after : SpendContext Allocator} :
    driving action ctx = (.ok value, after) ↔ action ctx = (.ok value, after) :=
  Fallible.mapError_eq_ok

def Sdk.newContext (sdk : Sdk Allocator) : SpendContext Allocator := ⟨sdk.newAllocator, []⟩

/-- Who authorizes a spend. -/
inductive Owner where
  | standard (publicKey : PublicKey)
  | custom (spend : Spend)

def Owner.isCustom : Owner → Bool
  | standard _ => false
  | custom _ => true

/-- The unsigned result of an operation. -/
structure MerkleCoinSpend where
  coinSpends : List CoinSpend
  child : Option (Datastore DigDataStoreMetadata)

/-- A custom owner's spend passes through unchanged, and its conditions are dropped. -/
def innerSpend (sdk : Sdk Allocator) (owner : Owner) (conditions : Conditions) :
    InContext Allocator Spend :=
  match owner with
  | .standard publicKey => allocating (sdk.standardSpendWithConditions publicKey conditions)
  | .custom spend => pure spend

def drainCoinSpends : InContext Allocator (List CoinSpend) := fun ctx =>
  (.ok ctx.coinSpends, { ctx with coinSpends := [] })

/-- `ctx.alloc` of a serialized program. -/
def allocProgram (sdk : Sdk Allocator) (program : Program) : InContext Allocator Clvm :=
  .ofExcept ((sdk.programToClvm program).mapError fun error => .driver (sdk.toClvmDriverError error))

/-- `ctx.alloc` of a store's metadata. -/
def allocMetadata (sdk : Sdk Allocator) (metadata : DigDataStoreMetadata) : InContext Allocator Clvm := do
  allocating (sdk.alloc metadata.toClvm)
  return metadata.toClvm

end DigMerkle
