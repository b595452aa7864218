import DigMerkle.Library.Fallible
import DigMerkle.Library.Clvm
import DigMerkle.Library.Run
import DigMerkle.Library.Keyed
import DigMerkle.Library.Ladder
import DigMerkle.Library.Session
import DigMerkle.Library.Descent
import DigMerkle.Library.Query
import DigMerkle.Library.Replay
import DigMerkle.Library.Outcome
import DigMerkle.Model.Chia
import DigMerkle.Model.Metadata
import DigMerkle.Model.SdkMetadata
import DigMerkle.Model.SizeLadder
import DigMerkle.Model.Sdk
import DigMerkle.Model.Mint
import DigMerkle.Model.Store
import DigMerkle.Model.Read
import DigMerkle.Model.Sign
import DigMerkle.Contract.Laws
import DigMerkle.Contract.Signing
import DigMerkle.Reference.Codec
import DigMerkle.Reference.Wallet
import DigMerkle.Reference.Laws
import DigMerkle.Reference.Signing
import DigMerkle.Proof.SizeLadder
import DigMerkle.Proof.MetadataFormat
import DigMerkle.Proof.MetadataWire
import DigMerkle.Proof.Launch
import DigMerkle.Proof.LaunchAtomicity
import DigMerkle.Proof.LauncherMemos
import DigMerkle.Proof.MemoRewrite
import DigMerkle.Proof.Mint
import DigMerkle.Proof.OwnerDid
import DigMerkle.Proof.OwnerWalk
import DigMerkle.Proof.Update
import DigMerkle.Proof.Lifetime
import DigMerkle.Proof.ReadBack
import DigMerkle.Proof.Binding
import DigMerkle.Proof.Transfer
import DigMerkle.Proof.Authority
import DigMerkle.Proof.MetadataHash
import DigMerkle.Proof.IntermediateLaunch
import DigMerkle.Proof.Recogniser
import DigMerkle.Proof.OwnerAnswers
import DigMerkle.Proof.Hydration
import DigMerkle.Proof.Melt
import DigMerkle.Proof.Successor
import DigMerkle.Proof.Progress
import DigMerkle.Proof.Session
import DigMerkle.Proof.History
import DigMerkle.Proof.WalkReads
import DigMerkle.Proof.Signing
import DigMerkle.Proof.Watch
import DigMerkle.Proof.MetadataGrammar
import DigMerkle.Proof.Compose
import DigMerkle.Proof.LaunchRefusal
import DigMerkle.Proof.MintOutcome
import DigMerkle.Proof.OrdinaryParent
import DigMerkle.Proof.Discovery
import DigMerkle.Proof.Batch
