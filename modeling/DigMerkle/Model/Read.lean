import DigMerkle.Model.Store

namespace DigMerkle

open Library

structure DidRef where
  launcherId : Bytes32
  deriving DecidableEq

/-- A chain read by coin id: a rendered error, nothing, or any coin spend. -/
abbrev ChainSource := Bytes32 → Except String (Option CoinSpend)

def didRefFromSpend (sdk : Sdk Allocator) (spend : CoinSpend) : MerkleResult (Option DidRef) := do
  let puzzle ← parseProgram sdk "puzzle reveal" spend.puzzleReveal
  let solution ← parseProgram sdk "solution" spend.solution
  if sdk.treeHash puzzle ≠ spend.coin.puzzleHash then .error (unboundReveal sdk spend.coin)
  else do
    let did ← (sdk.didParse spend.coin puzzle solution).mapError .driver
    return did.map DidRef.mk

def readCoinSpend (chain : ChainSource) (coinId : Bytes32) : MerkleResult (Option CoinSpend) :=
  (chain coinId).mapError fun error => .chain s!"chain read for {coinId.hex}: {error}"

/-- Read a spend and refuse one whose coin has another id than the one asked for. -/
def readSpendOf (sdk : Sdk Allocator) (chain : ChainSource) (coinId : Bytes32)
    (refusal : (answered : Bytes32) → String) : MerkleResult (Option CoinSpend) := do
  let answer ← readCoinSpend chain coinId
  match answer with
  | none => .ok none
  | some spend =>
    if sdk.coinId spend.coin ≠ coinId then .error (.chain (refusal (sdk.coinId spend.coin)))
    else .ok (some spend)

def readBoundSpend (sdk : Sdk Allocator) (chain : ChainSource) (coinId : Bytes32) :
    MerkleResult (Option CoinSpend) :=
  readSpendOf sdk chain coinId fun answered =>
    s!"spend for {coinId.hex} is coin {answered.hex}, not the coin that was requested"

/-- The launcher id is the store id, so the launcher's spend is bound to it. -/
def readLauncherSpend (sdk : Sdk Allocator) (chain : ChainSource) (storeId : Bytes32) :
    MerkleResult (Option CoinSpend) :=
  readSpendOf sdk chain storeId fun answered =>
    s!"launcher spend for {storeId.hex} is coin {answered.hex}, not the requested store's launcher"

/-- The curried launcher puzzle hash of a bound intermediate launcher puzzle. -/
def intermediateLauncherHash (sdk : Sdk Allocator) (puzzle : Clvm) : Option Bytes32 :=
  match sdk.asCurried puzzle with
  | none => none
  | some curried =>
    if curried.modHash ≠ sdk.nftIntermediateLauncherHash then none
    else (sdk.nftIntermediateLauncherArgs curried.args).map NftIntermediateLauncherArgs.launcherPuzzleHash

def isLauncherIntermediate (sdk : Sdk Allocator) (spend : CoinSpend) (launcherCoin : Coin) : Bool :=
  if spend.coin.amount ≠ 0 then false else
  match sdk.programToClvm spend.puzzleReveal with
  | .error _ => false
  | .ok puzzle =>
    if sdk.treeHash puzzle ≠ spend.coin.puzzleHash then false else
    match intermediateLauncherHash sdk puzzle with
    | none => false
    | some launcherPuzzleHash =>
      if launcherPuzzleHash ≠ sdk.singletonLauncherHash then false
      else sdk.coinId ⟨sdk.coinId spend.coin, launcherPuzzleHash, 1⟩ = sdk.coinId launcherCoin

/-- The second hop of the walk, from an intermediate launcher coin to its creator. -/
def resolveThroughIntermediate (sdk : Sdk Allocator) (chain : ChainSource) (creatorSpend : CoinSpend)
    (launcherCoin : Coin) : MerkleResult (Option DidRef) :=
  if isLauncherIntermediate sdk creatorSpend launcherCoin then do
    let singletonSpend ← readBoundSpend sdk chain creatorSpend.coin.parentCoinInfo
    match singletonSpend with
    | none => .ok none
    | some singletonSpend => didRefFromSpend sdk singletonSpend
  else .ok none

/-- The walk from the launcher's spend to its creator, and at most one hop beyond. -/
def resolveFromLauncher (sdk : Sdk Allocator) (chain : ChainSource) (launcherCoin : Coin) :
    MerkleResult (Option DidRef) := do
  let creatorSpend ← readBoundSpend sdk chain launcherCoin.parentCoinInfo
  match creatorSpend with
  | none => .ok none
  | some creatorSpend => do
    let didRef ← didRefFromSpend sdk creatorSpend
    match didRef with
    | some didRef => .ok (some didRef)
    | none => resolveThroughIntermediate sdk chain creatorSpend launcherCoin

def resolveOwnerDid (sdk : Sdk Allocator) (storeId : Bytes32) (chain : ChainSource) :
    MerkleResult (Option DidRef) := do
  let launcherSpend ← readLauncherSpend sdk chain storeId
  match launcherSpend with
  | none => .ok none
  | some launcherSpend => resolveFromLauncher sdk chain launcherSpend.coin

end DigMerkle
