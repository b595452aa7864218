import DigMerkle.Model.Sdk

namespace DigMerkle

open Library

/-- A signature that a spend needs: by whom, and over which parts of the message. -/
inductive RequiredSignature where
  | bls (publicKey : PublicKey) (rawMessage appendedInfo : List UInt8) (domainString : Option Bytes32)
  | secp (publicKey messageHash : List UInt8)
  deriving DecidableEq

/-- The SDK's signature calculation over the constants of a network. `me` is the domain of
`AGG_SIG_ME` there, and errors are rendered. -/
structure Signer (Allocator AggSigConstants : Type) where
  me : AggSigConstants → Bytes32
  /-- The point at infinity, which no signature may be required of. -/
  isInfinity : PublicKey → Bool
  fromCoinSpends : List CoinSpend → AggSigConstants → Fallible String Allocator (List RequiredSignature)

end DigMerkle
