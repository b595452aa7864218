import DigMerkle.Contract.Signing
import DigMerkle.Reference.Laws

namespace DigMerkle.Reference

open Library

/-- The conditions that a spend asks signatures for. -/
def askedConditions (puzzle solution : Clvm) : Except String Conditions :=
  match launcherSolution solution with
  | some _ => if treeHash puzzle = treeHash launcherPuzzle then .ok [] else .error "not a launcher"
  | none =>
    match storeSpend puzzle solution with
    | some view => (wallet.emitted view.innerPuzzle view.innerSolution).mapError DriverError.message
    | none => (wallet.emitted puzzle solution).mapError DriverError.message

def signaturesOf (coin : Coin) (me : Bytes32) (publicKeys : List PublicKey) :
    Except String (List RequiredSignature) :=
  publicKeys.mapM fun publicKey =>
    if publicKey = key 0 then .error "infinity public key"
    else .ok (.bls publicKey publicKey.bytes (coinId coin).bytes (some me))

def spendSignatures (me : Bytes32) (spend : CoinSpend) : Except String (List RequiredSignature) := do
  let puzzle ← deserialize spend.puzzleReveal
  let solution ← deserialize spend.solution
  let conditions ← askedConditions puzzle solution
  signaturesOf spend.coin me (conditions.filterMap Condition.signer?)

def signer : Signer Unit Bytes32 where
  me := id
  isInfinity publicKey := publicKey = key 0
  fromCoinSpends spends me := .ofExcept do
    let each ← spends.mapM (spendSignatures me)
    return each.flatten

end DigMerkle.Reference
