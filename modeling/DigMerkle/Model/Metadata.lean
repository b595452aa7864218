import DigMerkle.Library.Keyed
import DigMerkle.Model.Chia

namespace DigMerkle

open Library

def maxExponent : UInt8 := 10

/-- A store size of `2^k` MiB. An exponent past the ladder cannot be built. -/
structure SizeBucket where
  k : UInt8
  valid : k ≤ maxExponent
  deriving DecidableEq

namespace SizeBucket

def fromExponent (k : UInt8) : MerkleResult SizeBucket :=
  if large : k > maxExponent then
    .error (.invalidSize s!"size-bucket exponent {k} exceeds the maximum {maxExponent} (1 GB)")
  else .ok ⟨k, UInt8.not_lt.mp large⟩

def exponent (bucket : SizeBucket) : UInt8 := bucket.k

theorem fromExponent_exponent (bucket : SizeBucket) : fromExponent bucket.exponent = .ok bucket := by
  have small : ¬ bucket.k > maxExponent := UInt8.not_lt.mpr bucket.valid
  simp [fromExponent, exponent, small]

theorem exponent_of_fromExponent {value : UInt8} {bucket : SizeBucket}
    (built : fromExponent value = .ok bucket) : value = bucket.exponent := by
  unfold fromExponent at built
  split at built
  · cases built
  · cases built
    rfl

end SizeBucket

structure DigDataStoreMetadata where
  rootHash : Bytes32
  label : Option String
  description : Option String
  sizeProof : Option String
  programHash : Option Bytes32
  sizeBucket : Option SizeBucket
  deriving DecidableEq

def invalidSz : String := "invalid sz: non-minimal or out-of-range size exponent"

/-- Only the minimal encoding of an exponent is a size: the empty atom for 0,
one byte for 1 to 10. -/
def decodeExponent : List UInt8 → Except FromClvmError UInt8
  | [] => .ok 0
  | [byte] => if 1 ≤ byte ∧ byte ≤ 10 then .ok byte else .error (.custom invalidSz)
  | _ => .error (.custom invalidSz)

def decodeSizeBucket (node : Clvm) : Except FromClvmError SizeBucket := do
  let atom ← node.decodeAtom
  let exponent ← decodeExponent atom
  (SizeBucket.fromExponent exponent).mapError fun error => .custom error.toString

namespace DigDataStoreMetadata

def rootHashOnly (rootHash : Bytes32) : DigDataStoreMetadata :=
  ⟨rootHash, none, none, none, none, none⟩

/-- The alist pushed by the encoder: the SDK's keys, then the two DIG keys. -/
def items (metadata : DigDataStoreMetadata) : List (String × Clvm) :=
  (metadata.label.map fun label => ("l", Clvm.ofString label)).toList ++
  (metadata.description.map fun description => ("d", Clvm.ofString description)).toList ++
  (metadata.sizeProof.map fun sizeProof => ("sp", Clvm.ofString sizeProof)).toList ++
  (metadata.programHash.map fun programHash => ("p", programHash.toClvm)).toList ++
  (metadata.sizeBucket.map fun sizeBucket => ("sz", Clvm.ofByte sizeBucket.exponent)).toList

def itemToClvm (item : String × Clvm) : Clvm := .pair (.ofString item.1) item.2

def toClvm (metadata : DigDataStoreMetadata) : Clvm :=
  .pair metadata.rootHash.toClvm (.ofList (metadata.items.map itemToClvm))

/-- One step of the decoder. A repeated key overwrites, and an unknown key is skipped. -/
def readItem (metadata : DigDataStoreMetadata) : String × Clvm → Except FromClvmError DigDataStoreMetadata
  | ("l", node) => do return { metadata with label := some (← node.decodeString) }
  | ("d", node) => do return { metadata with description := some (← node.decodeString) }
  | ("sp", node) => do return { metadata with sizeProof := some (← node.decodeString) }
  | ("p", node) => do return { metadata with programHash := some (← BytesImpl.fromClvm 32 node) }
  | ("sz", node) => do return { metadata with sizeBucket := some (← decodeSizeBucket node) }
  | _ => .ok metadata

def itemFromClvm (node : Clvm) : Except FromClvmError (String × Clvm) := do
  let (key, value) ← node.decodePair
  let text ← key.decodeString
  return (text, value)

def fromClvm (node : Clvm) : Except FromClvmError DigDataStoreMetadata := do
  let (root, alist) ← node.decodePair
  let rootHash ← BytesImpl.fromClvm 32 root
  let items ← alist.decodeList itemFromClvm
  items.foldlM readItem (rootHashOnly rootHash)

end DigDataStoreMetadata

theorem decodeExponent_eq_ok {bytes : List UInt8} {bucket : SizeBucket} :
    decodeExponent bytes = .ok bucket.exponent ↔ .atom bytes = Clvm.ofByte bucket.exponent := by
  have bounded : bucket.exponent < 128 := UInt8.lt_of_le_of_lt bucket.valid (by decide)
  by_cases zero : bucket.exponent = 0
  · rw [zero, Clvm.ofByte, if_pos rfl]
    match bytes with
    | [] => simp [decodeExponent]
    | [byte] =>
      simp only [decodeExponent, Clvm.atom.injEq, reduceCtorEq, iff_false]
      split
      · rintro ⟨rfl⟩
        rename_i range
        exact absurd range.1 (by decide)
      · simp
    | _ :: _ :: _ => simp [decodeExponent]
  · have range : 1 ≤ bucket.exponent ∧ bucket.exponent ≤ 10 := by
      refine ⟨?_, bucket.valid⟩
      rw [UInt8.le_iff_toNat_le]
      exact Nat.one_le_iff_ne_zero.mpr fun none => zero (UInt8.toNat_inj.mp none)
    rw [Clvm.ofByte, if_neg zero, if_pos bounded]
    match bytes with
    | [] => simp [decodeExponent, Ne.symm zero]
    | [byte] =>
      simp only [decodeExponent, Clvm.atom.injEq, List.cons.injEq, and_true]
      constructor
      · intro success
        split at success
        · exact Except.ok.inj success
        · cases success
      · intro same
        subst same
        rw [if_pos range]
    | _ :: _ :: _ => simp [decodeExponent]

/-- The size field has one encoding for each bucket. -/
theorem decodeSizeBucket_eq_ok {node : Clvm} {bucket : SizeBucket} :
    decodeSizeBucket node = .ok bucket ↔ node = .ofByte bucket.exponent := by
  simp only [decodeSizeBucket, except_bind_eq_ok, except_mapError_eq_ok, Clvm.decodeAtom_eq_ok]
  constructor
  · intro success
    rcases success with ⟨bytes, rfl, exponent, decoded, built⟩
    have same : exponent = bucket.exponent := SizeBucket.exponent_of_fromExponent built
    rw [same] at decoded
    exact decodeExponent_eq_ok.mp decoded
  · intro shape
    obtain ⟨bytes, encoded⟩ := Clvm.ofByte_atom bucket.exponent
    rw [encoded] at shape
    exact ⟨bytes, shape, _, decodeExponent_eq_ok.mpr encoded.symm, bucket.fromExponent_exponent⟩

namespace DigDataStoreMetadata

def keys : List String := ["l", "d", "sp", "p", "sz"]

/-- The encoded value of the field stored under a key. -/
def entry (metadata : DigDataStoreMetadata) : String → Option Clvm
  | "l" => metadata.label.map Clvm.ofString
  | "d" => metadata.description.map Clvm.ofString
  | "sp" => metadata.sizeProof.map Clvm.ofString
  | "p" => metadata.programHash.map BytesImpl.toClvm
  | "sz" => metadata.sizeBucket.map fun bucket => .ofByte bucket.exponent
  | _ => none

def entryItem (metadata : DigDataStoreMetadata) (key : String) : Option (String × Clvm) :=
  (metadata.entry key).map fun value => (key, value)

theorem items_eq_entries (metadata : DigDataStoreMetadata) :
    metadata.items = keys.filterMap metadata.entryItem := by
  obtain ⟨rootHash, label, description, sizeProof, programHash, sizeBucket⟩ := metadata
  cases label <;> cases description <;> cases sizeProof <;> cases programHash <;>
    cases sizeBucket <;> rfl

theorem entry_rootHashOnly (rootHash : Bytes32) (key : String) : (rootHashOnly rootHash).entry key = none := by
  unfold entry
  split <;> rfl

theorem ext_entries {metadata other : DigDataStoreMetadata} (root : metadata.rootHash = other.rootHash)
    (same : ∀ key ∈ keys, metadata.entry key = other.entry key) : metadata = other := by
  have label := same "l" (by decide)
  have description := same "d" (by decide)
  have sizeProof := same "sp" (by decide)
  have programHash := same "p" (by decide)
  have sizeBucket := same "sz" (by decide)
  cases metadata
  cases other
  simp only [entry] at label description sizeProof programHash sizeBucket
  congr
  · exact Option.map_injective (fun _ _ => Clvm.ofString_injective) label
  · exact Option.map_injective (fun _ _ => Clvm.ofString_injective) description
  · exact Option.map_injective (fun _ _ => Clvm.ofString_injective) sizeProof
  · exact Option.map_injective (fun _ _ => BytesImpl.toClvm_injective) programHash
  · refine Option.map_injective (fun bucket other same => ?_) sizeBucket
    have first := decodeSizeBucket_eq_ok.mpr (rfl : Clvm.ofByte bucket.exponent = _)
    rw [decodeSizeBucket_eq_ok.mpr same] at first
    exact (Except.ok.inj first).symm

theorem readItem_entry_same {metadata after : DigDataStoreMetadata} (known : key ∈ keys)
    (read : readItem metadata (key, value) = .ok after) : after.entry key = some value := by
  simp only [keys, List.mem_cons, List.not_mem_nil, or_false] at known
  rcases known with rfl | rfl | rfl | rfl | rfl <;>
    simp only [readItem, except_bind_eq_ok, except_pure_eq_ok, Clvm.decodeString_eq_ok,
      BytesImpl.fromClvm_eq_ok, decodeSizeBucket_eq_ok] at read <;>
    obtain ⟨field, rfl, rfl⟩ := read <;> rfl

/-- Reading an item either sets the one field its key names or nothing. -/
theorem readItem_cases {metadata after : DigDataStoreMetadata}
    (success : readItem metadata (key, value) = .ok after) :
    (∃ label, key = "l" ∧ after = { metadata with label := some label }) ∨
    (∃ description, key = "d" ∧ after = { metadata with description := some description }) ∨
    (∃ sizeProof, key = "sp" ∧ after = { metadata with sizeProof := some sizeProof }) ∨
    (∃ programHash, key = "p" ∧ after = { metadata with programHash := some programHash }) ∨
    (∃ sizeBucket, key = "sz" ∧ after = { metadata with sizeBucket := some sizeBucket }) ∨
    (key ∉ keys ∧ after = metadata) := by
  unfold readItem at success
  split at success
  case h_6 label description sizeProof programHash sizeBucket =>
    cases success
    have unknown : key ∉ keys := by
      simp only [keys, List.mem_cons, List.not_mem_nil, or_false]
      rintro (rfl | rfl | rfl | rfl | rfl)
      · exact label value rfl
      · exact description value rfl
      · exact sizeProof value rfl
      · exact programHash value rfl
      · exact sizeBucket value rfl
    simp [unknown]
  all_goals
    rename_i same
    obtain ⟨field, decoded, stored⟩ := except_bind_eq_ok.mp success
    cases same
    cases stored
    simp

theorem readItem_rootHash {metadata after : DigDataStoreMetadata}
    (success : readItem metadata item = .ok after) : after.rootHash = metadata.rootHash := by
  rcases readItem_cases success with
    ⟨_, _, rfl⟩ | ⟨_, _, rfl⟩ | ⟨_, _, rfl⟩ | ⟨_, _, rfl⟩ | ⟨_, _, rfl⟩ | ⟨_, rfl⟩ <;> rfl

theorem readItem_entry_other {metadata after : DigDataStoreMetadata} {key read : String}
    (other : key ≠ read) (success : readItem metadata (read, value) = .ok after) :
    after.entry key = metadata.entry key := by
  rcases readItem_cases success with
    ⟨_, rfl, rfl⟩ | ⟨_, rfl, rfl⟩ | ⟨_, rfl, rfl⟩ | ⟨_, rfl, rfl⟩ | ⟨_, rfl, rfl⟩ | ⟨_, rfl⟩
  case inr.inr.inr.inr.inr => rfl
  all_goals
    unfold entry
    split <;> first | rfl | exact absurd rfl other

theorem readItems_rootHash {items : List (String × Clvm)} {start metadata : DigDataStoreMetadata}
    (success : items.foldlM readItem start = .ok metadata) : metadata.rootHash = start.rootHash := by
  induction items generalizing start with
  | nil => cases success; rfl
  | cons item items ih =>
    rw [List.foldlM_cons, except_bind_eq_ok] at success
    obtain ⟨middle, first, rest⟩ := success
    rw [ih rest, readItem_rootHash first]

theorem readItems_untouched {items : List (String × Clvm)} {start metadata : DigDataStoreMetadata}
    (success : items.foldlM readItem start = .ok metadata) (absent : key ∉ items.map Prod.fst) :
    metadata.entry key = start.entry key := by
  induction items generalizing start with
  | nil => cases success; rfl
  | cons item items ih =>
    rw [List.foldlM_cons, except_bind_eq_ok] at success
    obtain ⟨middle, first, rest⟩ := success
    simp only [List.map_cons, List.mem_cons, not_or] at absent
    rw [ih rest absent.2, readItem_entry_other absent.1 first]

/-- Without repeated keys, each known key ends up with its item's value. -/
theorem readItems_entry {items : List (String × Clvm)} {start metadata : DigDataStoreMetadata}
    (success : items.foldlM readItem start = .ok metadata) (distinct : (items.map Prod.fst).Nodup)
    (known : key ∈ keys) (member : (key, value) ∈ items) : metadata.entry key = some value := by
  induction items generalizing start with
  | nil => cases member
  | cons item items ih =>
    rw [List.foldlM_cons, except_bind_eq_ok] at success
    obtain ⟨middle, first, rest⟩ := success
    rw [List.map_cons, List.nodup_cons] at distinct
    cases member with
    | head => rw [readItems_untouched rest distinct.1, readItem_entry_same known first]
    | tail _ later => exact ih rest distinct.2 later

private theorem filterMap_lookup {lookup : String → Option Clvm} {items : List (String × Clvm)}
    {order : List String} (ordered : (items.map Prod.fst).Sublist order) (distinct : order.Nodup)
    (found : ∀ key value, (key, value) ∈ items → lookup key = some value)
    (absent : ∀ key ∈ order, key ∉ items.map Prod.fst → lookup key = none) :
    order.filterMap (fun key => (lookup key).map fun value => (key, value)) = items := by
  induction order generalizing items with
  | nil =>
    have empty := List.map_eq_nil_iff.mp (List.sublist_nil.mp ordered)
    rw [empty]
    rfl
  | cons key order ih =>
    obtain ⟨fresh, others⟩ := List.nodup_cons.mp distinct
    have later : ∀ other ∈ order, other ≠ key := fun other member same => fresh (same ▸ member)
    cases items with
    | nil =>
      rw [List.filterMap_cons_none (by simp [absent key (by simp) (by simp)])]
      exact ih (by simp) others found fun other member => absent other (by simp [member])
    | cons item items =>
      obtain ⟨first, value⟩ := item
      cases ordered with
      | cons _ skipped =>
        have missing : key ∉ ((first, value) :: items).map Prod.fst :=
          fun member => fresh (skipped.subset member)
        rw [List.filterMap_cons_none (by simp [absent key (by simp) missing])]
        exact ih skipped others found fun other member => absent other (by simp [member])
      | cons_cons _ kept =>
        rw [List.filterMap_cons_some (by rw [found first value (by simp)]; rfl)]
        congr 1
        apply ih kept others (fun other stored member => found other stored (by simp [member]))
        intro other member missing
        exact absent other (by simp [member]) (by simpa [later other member] using missing)

theorem keys_nodup : keys.Nodup := by decide

theorem items_keys_sublist (metadata : DigDataStoreMetadata) :
    (metadata.items.map Prod.fst).Sublist keys := by
  have kept : metadata.items.map Prod.fst = keys.filter fun key => (metadata.entry key).isSome := by
    rw [items_eq_entries, List.map_filterMap, ← List.filterMap_eq_filter]
    congr 1
    funext key
    cases held : metadata.entry key <;> simp [entryItem, held, Option.guard]
  rw [kept]
  exact List.filter_sublist

/-- Reading items in key order, from a record without any, gives a record that
encodes to those very items. -/
theorem readItems_items {items : List (String × Clvm)} {rootHash : Bytes32} {metadata : DigDataStoreMetadata}
    (success : items.foldlM readItem (rootHashOnly rootHash) = .ok metadata)
    (ordered : (items.map Prod.fst).Sublist keys) : metadata.items = items := by
  rw [items_eq_entries]
  apply filterMap_lookup ordered keys_nodup
  · intro key value member
    have known : key ∈ keys := ordered.subset (List.mem_map_of_mem member)
    exact readItems_entry success (keys_nodup.sublist ordered) known member
  · intro key _ missing
    rw [readItems_untouched success missing, entry_rootHashOnly]

theorem itemFromClvm_eq_ok {node : Clvm} {item : String × Clvm} :
    itemFromClvm node = .ok item ↔ node = itemToClvm item := by
  cases node with
  | atom bytes => simp [itemFromClvm, itemToClvm, Clvm.decodePair, bind, Except.bind]
  | pair key value =>
    obtain ⟨text, stored⟩ := item
    change (key.decodeString >>= fun text => pure (text, value)) = .ok (text, stored) ↔
      Clvm.pair key value = .pair (.ofString text) stored
    simp only [except_bind_eq_ok, except_pure_eq_ok, Clvm.decodeString_eq_ok, Prod.mk.injEq,
      Clvm.pair.injEq]
    constructor
    · intro success
      rcases success with ⟨_, read, rfl, rfl⟩
      exact ⟨read, rfl⟩
    · intro shape
      rcases shape with ⟨read, rfl⟩
      exact ⟨text, read, rfl, rfl⟩

/-- What a decodable node looks like: a root, an alist, and a record read from it. -/
theorem fromClvm_eq_ok {node : Clvm} {metadata : DigDataStoreMetadata} :
    fromClvm node = .ok metadata ↔ ∃ (rootHash : Bytes32) (items : List (String × Clvm)),
      node = .pair rootHash.toClvm (.ofList (items.map itemToClvm)) ∧
      items.foldlM readItem (rootHashOnly rootHash) = .ok metadata := by
  have canonical : ∀ part item, itemFromClvm part = .ok item ↔ part = itemToClvm item :=
    fun _ _ => itemFromClvm_eq_ok
  cases node with
  | atom bytes => simp [fromClvm, Clvm.decodePair, bind, Except.bind]
  | pair root alist =>
    change (BytesImpl.fromClvm 32 root >>= fun rootHash => alist.decodeList itemFromClvm >>= fun items =>
      items.foldlM readItem (rootHashOnly rootHash)) = .ok metadata ↔ _
    simp only [except_bind_eq_ok, BytesImpl.fromClvm_eq_ok, Clvm.decodeList_eq_ok_map canonical,
      Clvm.pair.injEq]
    constructor
    · intro success
      rcases success with ⟨rootHash, first, items, rest, read⟩
      exact ⟨rootHash, items, ⟨first, rest⟩, read⟩
    · intro shape
      rcases shape with ⟨rootHash, items, ⟨first, rest⟩, read⟩
      exact ⟨rootHash, first, items, rest, read⟩

private theorem readItem_total {metadata : DigDataStoreMetadata} (held : metadata.entry key = some value)
    (start : DigDataStoreMetadata) : ∃ after, readItem start (key, value) = .ok after := by
  unfold entry at held
  split at held
  case h_6 => cases held
  all_goals
    obtain ⟨field, _, rfl⟩ := Option.map_eq_some_iff.mp held
    simp [readItem, bind, Except.bind, pure, Except.pure, decodeSizeBucket_eq_ok.mpr rfl]

theorem readItems_self (metadata : DigDataStoreMetadata) :
    metadata.items.foldlM readItem (rootHashOnly metadata.rootHash) = .ok metadata := by
  have total : ∀ items : List (String × Clvm), (∀ item ∈ items, metadata.entry item.1 = some item.2) →
      ∀ start, ∃ after, items.foldlM readItem start = .ok after := by
    intro items held
    induction items with
    | nil => exact fun start => ⟨start, rfl⟩
    | cons item items ih =>
      intro start
      obtain ⟨middle, first⟩ := readItem_total (held item (by simp)) start
      obtain ⟨after, rest⟩ := ih (fun other member => held other (by simp [member])) middle
      exact ⟨after, by rw [List.foldlM_cons, except_bind_eq_ok]; exact ⟨middle, first, rest⟩⟩
  have held : ∀ item ∈ metadata.items, metadata.entry item.1 = some item.2 := by
    intro item member
    rw [items_eq_entries, List.mem_filterMap] at member
    obtain ⟨key, _, present⟩ := member
    obtain ⟨value, stored, rfl⟩ := Option.map_eq_some_iff.mp present
    exact stored
  obtain ⟨after, read⟩ := total metadata.items held (rootHashOnly metadata.rootHash)
  have root : after.rootHash = (rootHashOnly metadata.rootHash).rootHash := readItems_rootHash read
  have distinct := keys_nodup.sublist metadata.items_keys_sublist
  have same : after = metadata := by
    refine ext_entries root ?_
    intro key known
    cases stored : metadata.entry key with
    | some value =>
      apply readItems_entry read distinct known
      rw [items_eq_entries, List.mem_filterMap]
      exact ⟨key, known, by simp [entryItem, stored]⟩
    | none =>
      rw [readItems_untouched read, entry_rootHashOnly]
      intro member
      obtain ⟨item, present, rfl⟩ := List.mem_map.mp member
      rw [held item present] at stored
      cases stored
  rwa [same] at read

/-- Decoding undoes encoding. -/
theorem fromClvm_toClvm (metadata : DigDataStoreMetadata) : fromClvm metadata.toClvm = .ok metadata :=
  fromClvm_eq_ok.mpr ⟨_, _, rfl, metadata.readItems_self⟩

theorem toClvm_injective {metadata other : DigDataStoreMetadata} (same : metadata.toClvm = other.toClvm) :
    metadata = other := by
  have decoded := metadata.fromClvm_toClvm
  rw [same, other.fromClvm_toClvm] at decoded
  exact (Except.ok.inj decoded).symm

theorem readItem_skips : SkipsOthers keys readItem := by
  intro metadata item unknown
  obtain ⟨key, value⟩ := item
  simp only [keys, List.mem_cons, List.not_mem_nil, or_false, not_or] at unknown
  unfold readItem
  split <;> first | rfl | simp_all

/-- The keys of a node's alist, in the node's order. -/
def alistKeys (node : Clvm) : Except FromClvmError (List String) := do
  let (_, alist) ← node.decodePair
  let items ← alist.decodeList itemFromClvm
  return items.map Prod.fst

/-- Re-encoding gives the decoded node back exactly when the node's keys are
distinct known keys in encoding order. -/
theorem toClvm_fromClvm_iff {node : Clvm} {metadata : DigDataStoreMetadata}
    (decoded : fromClvm node = .ok metadata) :
    metadata.toClvm = node ↔ ∃ order, alistKeys node = .ok order ∧ order.Sublist keys := by
  obtain ⟨rootHash, items, rfl, read⟩ := fromClvm_eq_ok.mp decoded
  have listed : alistKeys (.pair rootHash.toClvm (.ofList (items.map itemToClvm))) =
      .ok (items.map Prod.fst) := by
    have alist : (Clvm.ofList (items.map itemToClvm)).decodeList itemFromClvm = .ok items :=
      Clvm.decodeList_ofList items fun _ _ => itemFromClvm_eq_ok.mpr rfl
    change ((Clvm.ofList (items.map itemToClvm)).decodeList itemFromClvm >>= fun items =>
      pure (items.map Prod.fst)) = _
    rw [alist]
    rfl
  have root := readItems_rootHash read
  rw [listed]
  constructor
  · intro same
    obtain ⟨_, rest⟩ := Clvm.pair.inj same
    have items_same : metadata.items = items := by
      have nodes := Clvm.ofList_injective rest
      refine List.map_injective_iff.mpr ?_ nodes
      intro first second same
      have decodes := itemFromClvm_eq_ok.mpr (rfl : itemToClvm first = _)
      rw [itemFromClvm_eq_ok.mpr same] at decodes
      exact (Except.ok.inj decodes).symm
    exact ⟨_, rfl, items_same ▸ metadata.items_keys_sublist⟩
  · intro listed
    rcases listed with ⟨order, shape, ordered⟩
    cases shape
    rw [toClvm, readItems_items read ordered, show metadata.rootHash = rootHash from root]

end DigDataStoreMetadata

end DigMerkle
