import DigMerkle.Library.Clvm

namespace DigMerkle

open Library

/-- A byte string of a fixed size. -/
structure BytesImpl (size : Nat) where
  bytes : List UInt8
  length_bytes : bytes.length = size
  deriving DecidableEq

abbrev Bytes32 := BytesImpl 32

/-- A BLS public key in its compressed form. -/
abbrev PublicKey := BytesImpl 48

namespace BytesImpl

/-- `Display` renders bytes as lower-case hexadecimal. -/
def hex (value : BytesImpl size) : String :=
  String.ofList (value.bytes.flatMap fun byte =>
    [Nat.digitChar (byte.toNat / 16), Nat.digitChar (byte.toNat % 16)])

def toClvm (value : BytesImpl size) : Clvm := .atom value.bytes

def fromClvm (size : Nat) (node : Clvm) : Except FromClvmError (BytesImpl size) := do
  let bytes ← node.decodeAtom
  if same : bytes.length = size then .ok ⟨bytes, same⟩
  else .error (.wrongAtomLength size bytes.length)

theorem fromClvm_eq_ok {node : Clvm} {value : BytesImpl size} :
    fromClvm size node = .ok value ↔ node = value.toClvm := by
  constructor
  · intro success
    cases node with
    | pair first rest => cases success
    | atom bytes =>
      simp only [fromClvm, Clvm.decodeAtom, bind, Except.bind] at success
      split at success
      · cases success
        rfl
      · cases success
  · intro same
    subst same
    simp [fromClvm, toClvm, Clvm.decodeAtom, bind, Except.bind, value.length_bytes]

@[simp] theorem fromClvm_toClvm (value : BytesImpl size) : fromClvm size value.toClvm = .ok value :=
  fromClvm_eq_ok.mpr rfl

theorem toClvm_injective {value other : BytesImpl size} (same : value.toClvm = other.toClvm) :
    value = other := by
  cases value
  cases other
  simpa [toClvm] using same

end BytesImpl

/-- A serialized CLVM program. -/
abbrev Program := List UInt8

structure Coin where
  parentCoinInfo : Bytes32
  puzzleHash : Bytes32
  amount : UInt64
  deriving DecidableEq

structure CoinSpend where
  coin : Coin
  puzzleReveal : Program
  solution : Program
  deriving DecidableEq

inductive Memos where
  | none
  | some (node : Clvm)
  deriving DecidableEq

structure CreateCoin where
  puzzleHash : Bytes32
  amount : UInt64
  memos : Memos
  deriving DecidableEq

/-- The conditions the crate distinguishes. `newMetadata` is the condition by
which a store replaces its metadata, and `other` any condition not named here. -/
inductive Condition where
  | createCoin (created : CreateCoin)
  | assertCoinAnnouncement (announcementId : Bytes32)
  | aggSigMe (publicKey : PublicKey)
  | meltSingleton
  | newMetadata (metadata : Clvm)
  | other (condition : Clvm)
  deriving DecidableEq

abbrev Conditions := List Condition

/-- A pending launch: the launcher coin, the conditions its parent must emit and
the amount of the singleton it will create. -/
structure Launcher where
  coin : Coin
  conditions : Conditions
  singletonAmount : UInt64
  deriving DecidableEq

inductive DelegatedPuzzle where
  | admin (puzzleHash : Bytes32)
  | writer (innerPuzzleHash : Bytes32)
  | oracle (puzzleHash : Bytes32) (fee : UInt64)
  deriving DecidableEq

structure LineageProof where
  parentParentCoinInfo : Bytes32
  parentInnerPuzzleHash : Bytes32
  parentAmount : UInt64
  deriving DecidableEq

structure EveProof where
  parentParentCoinInfo : Bytes32
  parentAmount : UInt64
  deriving DecidableEq

inductive Proof where
  | eve (proof : EveProof)
  | lineage (proof : LineageProof)
  deriving DecidableEq

structure DatastoreInfo (M : Type) where
  launcherId : Bytes32
  metadata : M
  ownerPuzzleHash : Bytes32
  delegatedPuzzles : List DelegatedPuzzle
  deriving DecidableEq

structure Datastore (M : Type) where
  coin : Coin
  proof : Proof
  info : DatastoreInfo M
  deriving DecidableEq

/-- An inner puzzle with the solution that authorizes a spend. -/
structure Spend where
  puzzle : Clvm
  solution : Clvm
  deriving DecidableEq

/-- The driver errors that the crate tells apart. -/
inductive DriverErrorKind where
  | missingChild
  | missingHint
  | missingMemo
  | other
  deriving DecidableEq

structure DriverError where
  kind : DriverErrorKind
  message : String
  deriving DecidableEq

inductive MerkleError where
  | driver (error : DriverError)
  | signer (message : String)
  | parse (message : String)
  | notDataStore
  | missingLineage
  | missingHint
  | permission (message : String)
  | unsupportedOwner (message : String)
  | notTheOwner
  | chain (message : String)
  | emptyCoins
  | invalidSize (message : String)
  deriving DecidableEq

abbrev MerkleResult := Except MerkleError

/-- The rendered error. -/
def MerkleError.toString : MerkleError → String
  | driver error => s!"chia driver error: {error.message}"
  | signer message => s!"signature calculation failed: {message}"
  | parse message => s!"failed to parse DataLayer coin: {message}"
  | notDataStore => "coin is not a DataLayer singleton"
  | missingLineage => "missing lineage proof for DataLayer coin"
  | missingHint => "missing hint on DataLayer coin"
  | permission message => s!"delegation permission denied: {message}"
  | unsupportedOwner message => s!"unsupported owner: {message}"
  | notTheOwner => "the supplied owner key does not control this store: it does not curry to the store's current owner puzzle hash"
  | chain message => s!"chain precondition failed: {message}"
  | emptyCoins => "no coins supplied to spend"
  | invalidSize message => s!"invalid size bucket: {message}"

end DigMerkle
