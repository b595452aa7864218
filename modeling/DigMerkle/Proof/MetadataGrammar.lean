import DigMerkle.Proof.MetadataWire
import Mathlib.Data.List.Nodup
import Mathlib.Data.List.Perm.Subperm

/-! The metadata format as a grammar: which nodes are read, and as what. The reader
takes the entries in any order and any number, so one record has many nodes, and its
encoding is the smallest of them. -/

namespace DigMerkle

open Library

namespace DigDataStoreMetadata

/-- An entry of the format: text, a hash or a size under its key, anything under a foreign key. -/
inductive WellTyped : String × Clvm → Prop where
  | text (named : key ∈ ["l", "d", "sp"]) (text : String) : WellTyped (key, .ofString text)
  | programHash (programHash : Bytes32) : WellTyped ("p", programHash.toClvm)
  | size (bucket : SizeBucket) : WellTyped ("sz", .ofByte bucket.exponent)
  | foreign (unknown : key ∉ keys) (value : Clvm) : WellTyped (key, value)

theorem WellTyped.of_readItem {metadata after : DigDataStoreMetadata}
    (read : readItem metadata (key, value) = .ok after) : WellTyped (key, value) := by
  by_cases known : key ∈ keys
  · simp only [keys, List.mem_cons, List.not_mem_nil, or_false] at known
    rcases known with rfl | rfl | rfl | rfl | rfl <;>
      simp only [readItem, except_bind_eq_ok, except_pure_eq_ok, Clvm.decodeString_eq_ok,
        BytesImpl.fromClvm_eq_ok, decodeSizeBucket_eq_ok] at read <;>
      obtain ⟨field, rfl, _⟩ := read
    · exact .text (by decide) field
    · exact .text (by decide) field
    · exact .text (by decide) field
    · exact .programHash field
    · exact .size field
  · exact .foreign known value

theorem WellTyped.readItem {item : String × Clvm} (typed : WellTyped item) (metadata : DigDataStoreMetadata) :
    ∃ after, readItem metadata item = .ok after := by
  cases typed with
  | text named text =>
    simp only [List.mem_cons, List.not_mem_nil, or_false] at named
    rcases named with rfl | rfl | rfl <;>
      simp [DigDataStoreMetadata.readItem, bind, Except.bind, pure, Except.pure]
  | programHash programHash => simp [DigDataStoreMetadata.readItem, bind, Except.bind, pure, Except.pure]
  | size bucket =>
    simp [DigDataStoreMetadata.readItem, bind, Except.bind, pure, Except.pure, decodeSizeBucket_eq_ok.mpr rfl]
  | foreign unknown value => exact ⟨metadata, readItem_skips metadata _ unknown⟩

/-- The reader accepts the well-typed entries and keeps the last of each key. -/
theorem readItem_stores : StoresLast keys WellTyped entry readItem where
  accepts _ _ := ⟨fun ⟨_, read⟩ => .of_readItem read, fun typed => typed.readItem _⟩
  same known read := readItem_entry_same known read
  other other read := readItem_entry_other other read

/-- The record of an alist: each field is the last value under its key. -/
def Collects (metadata : DigDataStoreMetadata) (items : List (String × Clvm)) : Prop :=
  ∀ key ∈ keys, metadata.entry key = lastValue key items

theorem readItems_iff {items : List (String × Clvm)} {rootHash : Bytes32} {metadata : DigDataStoreMetadata} :
    items.foldlM readItem (rootHashOnly rootHash) = .ok metadata ↔
      metadata.rootHash = rootHash ∧ (∀ item ∈ items, WellTyped item) ∧ metadata.Collects items := by
  have collects : ∀ {after}, items.foldlM readItem (rootHashOnly rootHash) = .ok after →
      after.Collects items := by
    intro after read key known
    rw [readItem_stores.entry_foldlM read known, entry_rootHashOnly, Option.or_none]
  constructor
  · intro read
    exact ⟨readItems_rootHash read, (readItem_stores.foldlM_accepts items _).mp ⟨metadata, read⟩, collects read⟩
  · intro grammar
    rcases grammar with ⟨root, typed, collected⟩
    obtain ⟨after, read⟩ := (readItem_stores.foldlM_accepts items (rootHashOnly rootHash)).mpr typed
    have same : after = metadata := by
      refine ext_entries ((readItems_rootHash read).trans root.symm) fun key known => ?_
      rw [collects read key known, collected key known]
    rwa [same] at read

theorem fromClvm_items_iff {rootHash : Bytes32} {items : List (String × Clvm)} {metadata : DigDataStoreMetadata} :
    fromClvm (.pair rootHash.toClvm (.ofList (items.map itemToClvm))) = .ok metadata ↔
      metadata.rootHash = rootHash ∧ (∀ item ∈ items, WellTyped item) ∧ metadata.Collects items := by
  rw [← readItems_iff, fromClvm_eq_ok]
  constructor
  · intro read
    rcases read with ⟨rootHash', items', shape, read⟩
    obtain ⟨root, alist⟩ := Clvm.pair.inj shape
    rw [BytesImpl.toClvm_injective root]
    rwa [List.map_injective_iff.mpr itemToClvm_injective (Clvm.ofList_injective alist)]
  · intro read
    exact ⟨rootHash, items, rfl, read⟩

/-- A node is read as a record exactly when it is the record's root over a proper list of
entries under text keys, each well typed, and each field of the record is the last value
under its key. -/
theorem fromClvm_grammar_iff (node : Clvm) (metadata : DigDataStoreMetadata) :
    fromClvm node = .ok metadata ↔
      ∃ items : List (String × Clvm), node = .pair metadata.rootHash.toClvm (.ofList (items.map itemToClvm)) ∧
        (∀ item ∈ items, WellTyped item) ∧ metadata.Collects items := by
  rw [fromClvm_eq_ok]
  constructor
  · intro read
    rcases read with ⟨rootHash, items, rfl, read⟩
    obtain ⟨rfl, typed, collected⟩ := readItems_iff.mp read
    exact ⟨items, rfl, typed, collected⟩
  · intro grammar
    rcases grammar with ⟨items, rfl, typed, collected⟩
    exact ⟨metadata.rootHash, items, rfl, readItems_iff.mpr ⟨rfl, typed, collected⟩⟩

theorem items_nodup (metadata : DigDataStoreMetadata) : (metadata.items.map Prod.fst).Nodup :=
  keys_nodup.sublist metadata.items_keys_sublist

theorem items_grammar (metadata : DigDataStoreMetadata) :
    (∀ item ∈ metadata.items, WellTyped item) ∧ metadata.Collects metadata.items :=
  (readItems_iff.mp metadata.readItems_self).2

/-- Every field of a collected record occurs among the items. -/
theorem Collects.items_subset {metadata : DigDataStoreMetadata} {items : List (String × Clvm)}
    (collected : metadata.Collects items) : metadata.items ⊆ items := by
  intro item member
  obtain ⟨key, value⟩ := item
  have known : key ∈ keys := metadata.items_keys_sublist.subset (List.mem_map_of_mem member)
  apply mem_of_lastValue
  rw [← collected key known, metadata.items_grammar.2 key known]
  exact (lastValue_eq_some metadata.items_nodup).mpr member

theorem Collects.of_perm {metadata : DigDataStoreMetadata} {items : List (String × Clvm)}
    (permuted : items.Perm metadata.items) : metadata.Collects items := by
  intro key known
  rw [metadata.items_grammar.2 key known]
  exact lastValue_perm metadata.items_nodup permuted.symm key

/-- Every node of a record lists at least the items that the record encodes to, and the
nodes that list no more are the encoding with its items in any order. -/
theorem encoding_is_least (metadata : DigDataStoreMetadata) (items : List (String × Clvm)) :
    (fromClvm (.pair metadata.rootHash.toClvm (.ofList (items.map itemToClvm))) = .ok metadata →
      metadata.items.Subperm items) ∧
    ((fromClvm (.pair metadata.rootHash.toClvm (.ofList (items.map itemToClvm))) = .ok metadata ∧
        items.length ≤ metadata.items.length) ↔ items.Perm metadata.items) := by
  have included : fromClvm (.pair metadata.rootHash.toClvm (.ofList (items.map itemToClvm))) = .ok metadata →
      metadata.items.Subperm items := by
    intro read
    obtain ⟨_, collected⟩ := (fromClvm_items_iff.mp read).2
    exact List.subperm_of_subset (.of_map Prod.fst metadata.items_nodup) collected.items_subset
  refine ⟨included, ?_⟩
  constructor
  · intro least
    rcases least with ⟨read, short⟩
    exact ((included read).perm_of_length_le short).symm
  · intro permuted
    refine ⟨fromClvm_items_iff.mpr ⟨rfl, ?_, .of_perm permuted⟩, permuted.length_eq.le⟩
    intro item member
    exact metadata.items_grammar.1 item (permuted.mem_iff.mp member)

/-- The fields of the later record, and those of the earlier where the later has none. -/
def overriddenBy (metadata later : DigDataStoreMetadata) : DigDataStoreMetadata where
  rootHash := later.rootHash
  label := later.label.or metadata.label
  description := later.description.or metadata.description
  sizeProof := later.sizeProof.or metadata.sizeProof
  programHash := later.programHash.or metadata.programHash
  sizeBucket := later.sizeBucket.or metadata.sizeBucket

theorem entry_overriddenBy (metadata later : DigDataStoreMetadata) (key : String) :
    (metadata.overriddenBy later).entry key = (later.entry key).or (metadata.entry key) := by
  unfold entry
  split <;> simp [overriddenBy, Option.map_or]

/-- Under one root, a node with the items of two alists is read exactly when the nodes of
both are, and as the second's record over the first's. -/
theorem appended_alists_override (rootHash : Bytes32) (items later : List (String × Clvm))
    (metadata : DigDataStoreMetadata) :
    fromClvm (.pair rootHash.toClvm (.ofList ((items ++ later).map itemToClvm))) = .ok metadata ↔
      ∃ first second, fromClvm (.pair rootHash.toClvm (.ofList (items.map itemToClvm))) = .ok first ∧
        fromClvm (.pair rootHash.toClvm (.ofList (later.map itemToClvm))) = .ok second ∧
        metadata = first.overriddenBy second := by
  simp only [fromClvm_items_iff, List.forall_mem_append]
  constructor
  · intro whole
    rcases whole with ⟨root, ⟨typed, typed'⟩, collected⟩
    obtain ⟨first, read⟩ := (readItem_stores.foldlM_accepts items (rootHashOnly rootHash)).mpr typed
    obtain ⟨second, read'⟩ := (readItem_stores.foldlM_accepts later (rootHashOnly rootHash)).mpr typed'
    obtain ⟨root₁, _, collected₁⟩ := readItems_iff.mp read
    obtain ⟨root₂, _, collected₂⟩ := readItems_iff.mp read'
    refine ⟨first, second, ⟨root₁, typed, collected₁⟩, ⟨root₂, typed', collected₂⟩, ?_⟩
    refine ext_entries (root.trans root₂.symm) fun key known => ?_
    rw [entry_overriddenBy, collected key known, lastValue_append, collected₁ key known, collected₂ key known]
  · intro halves
    rcases halves with ⟨first, second, ⟨_, typed, collected⟩, ⟨root, typed', collected'⟩, rfl⟩
    refine ⟨root, ⟨typed, typed'⟩, fun key known => ?_⟩
    rw [entry_overriddenBy, lastValue_append, collected key known, collected' key known]

/-- An entry appended to a record's encoding replaces the record's own. -/
example : (fromClvm (.pair zeroRoot.toClvm (.ofList ((sizedRecord.items ++
    [("sz", Clvm.ofByte mebibytes8.exponent)]).map itemToClvm)))).toOption.map sizeBucket =
    some (some mebibytes8) := by decide +kernel

end DigDataStoreMetadata

end DigMerkle
