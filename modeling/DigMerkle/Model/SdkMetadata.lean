import DigMerkle.Model.Metadata

namespace DigMerkle

open Library

/-- The encoding of 64-bit integers. -/
structure IntegerCodec where
  toClvm : UInt64 → Clvm
  fromClvm : Clvm → Except FromClvmError UInt64

structure DatastoreMetadata where
  rootHash : Bytes32
  label : Option String
  description : Option String
  bytes : Option UInt64
  sizeProof : Option String
  deriving DecidableEq

namespace DatastoreMetadata

def rootHashOnly (rootHash : Bytes32) : DatastoreMetadata := ⟨rootHash, none, none, none, none⟩

def keys : List String := ["l", "d", "b", "sp"]

def items (integers : IntegerCodec) (metadata : DatastoreMetadata) : List (String × Clvm) :=
  (metadata.label.map fun label => ("l", Clvm.ofString label)).toList ++
  (metadata.description.map fun description => ("d", Clvm.ofString description)).toList ++
  (metadata.bytes.map fun bytes => ("b", integers.toClvm bytes)).toList ++
  (metadata.sizeProof.map fun sizeProof => ("sp", Clvm.ofString sizeProof)).toList

def toClvm (integers : IntegerCodec) (metadata : DatastoreMetadata) : Clvm :=
  .pair metadata.rootHash.toClvm
    (.ofList ((metadata.items integers).map DigDataStoreMetadata.itemToClvm))

def readItem (integers : IntegerCodec) (metadata : DatastoreMetadata) :
    String × Clvm → Except FromClvmError DatastoreMetadata
  | ("l", node) => do return { metadata with label := some (← node.decodeString) }
  | ("d", node) => do return { metadata with description := some (← node.decodeString) }
  | ("b", node) => do return { metadata with bytes := some (← integers.fromClvm node) }
  | ("sp", node) => do return { metadata with sizeProof := some (← node.decodeString) }
  | _ => .ok metadata

def fromClvm (integers : IntegerCodec) (node : Clvm) : Except FromClvmError DatastoreMetadata := do
  let (root, alist) ← node.decodePair
  let rootHash ← BytesImpl.fromClvm 32 root
  let items ← alist.decodeList DigDataStoreMetadata.itemFromClvm
  items.foldlM (readItem integers) (rootHashOnly rootHash)

variable {integers : IntegerCodec}

theorem fromClvm_items (rootHash : Bytes32) (items : List (String × Clvm)) :
    fromClvm integers (.pair rootHash.toClvm (.ofList (items.map DigDataStoreMetadata.itemToClvm))) =
      items.foldlM (readItem integers) (rootHashOnly rootHash) := by
  have alist : (Clvm.ofList (items.map DigDataStoreMetadata.itemToClvm)).decodeList
      DigDataStoreMetadata.itemFromClvm = .ok items :=
    Clvm.decodeList_ofList items fun _ _ => DigDataStoreMetadata.itemFromClvm_eq_ok.mpr rfl
  simp [fromClvm, Clvm.decodePair, alist, bind, Except.bind]

theorem readItem_skips (integers : IntegerCodec) : SkipsOthers keys (readItem integers) := by
  intro metadata item unknown
  obtain ⟨key, value⟩ := item
  simp only [keys, List.mem_cons, List.not_mem_nil, or_false, not_or] at unknown
  unfold readItem
  split <;> first | rfl | simp_all

theorem readItems_self {metadata : DatastoreMetadata} (uncounted : metadata.bytes = none) :
    (metadata.items integers).foldlM (readItem integers) (rootHashOnly metadata.rootHash) = .ok metadata := by
  obtain ⟨rootHash, label, description, bytes, sizeProof⟩ := metadata
  cases uncounted
  cases label <;> cases description <;> cases sizeProof <;>
    simp [items, readItem, rootHashOnly, bind, Except.bind, pure, Except.pure]

end DatastoreMetadata

end DigMerkle
