import DigMerkle.Contract.Laws
import DigMerkle.Model.Sign

namespace DigMerkle

open Library

/-- The conditions whose signatures a spend asks for. The standard puzzle emits its own; a
store's layers pass on what the innermost puzzle emits when it recreates the singleton or
melts it; and a launcher's puzzle asks for none. -/
inductive SignedConditions (sdk : Sdk Allocator) (spend : CoinSpend) : Conditions → Prop
  | standard {publicKey : PublicKey} {solution : Clvm} {conditions : Conditions}
      (reveal : sdk.programToClvm spend.puzzleReveal = .ok (sdk.standardPuzzle publicKey))
      (solved : sdk.programToClvm spend.solution = .ok solution)
      (emitted : sdk.emitted (sdk.standardPuzzle publicKey) solution = .ok conditions) :
      SignedConditions sdk spend conditions
  | store {view : StoreSpend} {conditions : Conditions} (shape : IsStoreSpend sdk spend view)
      (updater : view.metadataUpdaterPuzzleHash = sdk.dlMetadataUpdaterPuzzleHash)
      (odd : spend.coin.amount % 2 = 1)
      (emitted : sdk.emitted view.innerPuzzle view.innerSolution = .ok conditions)
      (onceReplaced : (newMetadataNodes conditions).length ≤ 1)
      (onceSpent : (∃ created, oddCreateCoins conditions = [created]) ∧ .meltSingleton ∉ conditions ∨
        oddCreateCoins conditions = [] ∧ .meltSingleton ∈ conditions) : SignedConditions sdk spend conditions
  | launcher {puzzle solution : Clvm} {opened : LauncherSolution}
      (reveal : sdk.programToClvm spend.puzzleReveal = .ok puzzle)
      (hash : sdk.treeHash puzzle = sdk.singletonLauncherHash)
      (solved : sdk.programToClvm spend.solution = .ok solution)
      (opens : sdk.launcherSolution solution = some opened) : SignedConditions sdk spend []

def Condition.signer? : Condition → Option PublicKey
  | .aggSigMe publicKey => some publicKey
  | _ => none

/-- An `AGG_SIG_ME` by a key over the id of a coin. -/
def SignsCoin (sdk : Sdk Allocator) (signer : Signer Allocator AggSigConstants) (constants : AggSigConstants)
    (asked : PublicKey × Coin) (required : RequiredSignature) : Prop :=
  ∃ message, required =
    .bls asked.1 message (sdk.coinId asked.2).bytes (some (signer.me constants))

/-- Spends are calculated one after another, and one spend needs the signatures of its
conditions, in their order, unless one is asked of the point at infinity. -/
structure SignerLaw (sdk : Sdk Allocator) (signer : Signer Allocator AggSigConstants) : Prop where
  nil : ∀ constants allocator, signer.fromCoinSpends [] constants allocator = (.ok [], allocator)
  cons : ∀ spend spends constants, signer.fromCoinSpends (spend :: spends) constants = do
    let first ← signer.fromCoinSpends [spend] constants
    let rest ← signer.fromCoinSpends spends constants
    return first ++ rest
  single : ∀ {spend conditions}, SignedConditions sdk spend conditions →
    (∀ condition, .other condition ∉ conditions) →
    (∀ publicKey ∈ conditions.filterMap Condition.signer?, signer.isInfinity publicKey = false) →
    ∀ constants allocator, ∃ signatures after,
      signer.fromCoinSpends [spend] constants allocator = (.ok signatures, after) ∧
      List.Forall₂ (SignsCoin sdk signer constants)
        ((conditions.filterMap Condition.signer?).map fun publicKey => (publicKey, spend.coin)) signatures
  infinity : ∀ {spend conditions}, SignedConditions sdk spend conditions →
    (∃ publicKey ∈ conditions.filterMap Condition.signer?, signer.isInfinity publicKey = true) →
    ∀ constants allocator, Fails (signer.fromCoinSpends [spend] constants allocator).1

end DigMerkle
