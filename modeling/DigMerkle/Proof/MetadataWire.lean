import DigMerkle.Model.Metadata
import Mathlib.Data.Set.List

/-! The metadata reader over every node, not only over encodings. A size entry is
canonical, but a repeated one is read over; a foreign entry is skipped, but its key is
first decoded as text. -/

namespace DigMerkle

open Library

namespace DigDataStoreMetadata

/-- The entries of a node's alist, in the node's order. -/
def alistItems (node : Clvm) : Except FromClvmError (List (String × Clvm)) := do
  let (_, alist) ← node.decodePair
  alist.decodeList itemFromClvm

theorem alistItems_pair (root : Clvm) (items : List (String × Clvm)) :
    alistItems (.pair root (.ofList (items.map itemToClvm))) = .ok items :=
  Clvm.decodeList_ofList items fun _ _ => itemFromClvm_eq_ok.mpr rfl

theorem readItems_last {before after : List (String × Clvm)} {start metadata : DigDataStoreMetadata}
    (known : key ∈ keys) (absent : key ∉ after.map Prod.fst)
    (read : (before ++ (key, value) :: after).foldlM readItem start = .ok metadata) :
    metadata.entry key = some value := by
  rw [List.foldlM_append, except_bind_eq_ok] at read
  obtain ⟨middle, _, read⟩ := read
  rw [List.foldlM_cons, except_bind_eq_ok] at read
  obtain ⟨stored, first, rest⟩ := read
  rw [readItems_untouched rest absent, readItem_entry_same known first]

/-- The entries of an alist under the size key. -/
def sizeItems (items : List (String × Clvm)) : List (String × Clvm) := items.filter fun item => item.1 = "sz"

/-- The entries of an alist under any other key. -/
def otherItems (items : List (String × Clvm)) : List (String × Clvm) := items.filter fun item => item.1 ≠ "sz"

/-- The node has one size entry, which is the encoding of the bucket. -/
def SizeOnce (node : Clvm) (bucket : SizeBucket) : Prop :=
  ∃ items, alistItems node = .ok items ∧ sizeItems items = [("sz", Clvm.ofByte bucket.exponent)]

/-- No two entries of the node are under the size key. -/
def SizeUnrepeated (node : Clvm) : Prop :=
  ∀ items, alistItems node = .ok items → (items.map Prod.fst).count "sz" ≤ 1

theorem sizeItems_eq_nil {items : List (String × Clvm)} (absent : "sz" ∉ items.map Prod.fst) :
    sizeItems items = [] := by
  apply List.filter_eq_nil_iff.mpr
  intro item member same
  exact absent (List.mem_map.mpr ⟨item, member, of_decide_eq_true same⟩)

theorem length_sizeItems (items : List (String × Clvm)) :
    (sizeItems items).length = (items.map Prod.fst).count "sz" := by
  rw [List.count, List.countP_map, List.countP_eq_length_filter]
  congr 1

theorem readItems_size {items : List (String × Clvm)} {rootHash : Bytes32} {metadata : DigDataStoreMetadata}
    {bucket : SizeBucket} (read : items.foldlM readItem (rootHashOnly rootHash) = .ok metadata)
    (size : metadata.sizeBucket = some bucket) : ∃ before after,
      items = before ++ ("sz", Clvm.ofByte bucket.exponent) :: after ∧ "sz" ∉ after.map Prod.fst := by
  have held : metadata.entry "sz" = some (.ofByte bucket.exponent) := by simp [entry, size]
  have present : "sz" ∈ items.map Prod.fst := by
    by_contra absent
    rw [readItems_untouched read absent, entry_rootHashOnly] at held
    cases held
  obtain ⟨before, value, after, rfl, last⟩ := exists_last_item present
  have stored := readItems_last (by decide) last read
  cases held.symm.trans stored
  exact ⟨before, after, rfl, last⟩

theorem sizeItems_append {before after : List (String × Clvm)} (last : "sz" ∉ after.map Prod.fst)
    (value : Clvm) : sizeItems (before ++ ("sz", value) :: after) = sizeItems before ++ [("sz", value)] := by
  have none : sizeItems after = [] := sizeItems_eq_nil last
  rw [sizeItems, List.filter_append, List.filter_cons_of_pos (by simp)]
  exact congrArg (fun rest => sizeItems before ++ ("sz", value) :: rest) none

/-- An accepted node that does not repeat the size key has its one size entry between
the entries of other keys. -/
theorem SizeUnrepeated.split {node : Clvm} {metadata : DigDataStoreMetadata} {bucket : SizeBucket}
    (unrepeated : SizeUnrepeated node) (accepted : fromClvm node = .ok metadata)
    (size : metadata.sizeBucket = some bucket) : ∃ before after,
      node = .pair metadata.rootHash.toClvm
        (.ofList ((before ++ ("sz", Clvm.ofByte bucket.exponent) :: after).map itemToClvm)) ∧
      "sz" ∉ before.map Prod.fst ∧ "sz" ∉ after.map Prod.fst := by
  obtain ⟨rootHash, items, rfl, read⟩ := fromClvm_eq_ok.mp accepted
  have root : metadata.rootHash = rootHash := readItems_rootHash read
  obtain ⟨before, after, rfl, last⟩ := readItems_size read size
  have count := unrepeated _ (alistItems_pair _ _)
  rw [← length_sizeItems, sizeItems_append last, List.length_append, List.length_singleton,
    length_sizeItems] at count
  exact ⟨before, after, by rw [root], List.count_eq_zero.mp (by omega), last⟩

theorem sizeOnce_iff {node : Clvm} {metadata : DigDataStoreMetadata} {bucket : SizeBucket}
    (accepted : fromClvm node = .ok metadata) (size : metadata.sizeBucket = some bucket) :
    SizeOnce node bucket ↔ SizeUnrepeated node := by
  constructor
  · intro once items listed
    obtain ⟨items', listed', single⟩ := once
    cases listed.symm.trans listed'
    rw [← length_sizeItems, single]
    exact Nat.le_refl 1
  · intro unrepeated
    obtain ⟨before, after, rfl, first, last⟩ := unrepeated.split accepted size
    exact ⟨_, alistItems_pair _ _, by rw [sizeItems_append last, sizeItems_eq_nil first, List.nil_append]⟩

theorem otherItems_self {items : List (String × Clvm)} (absent : "sz" ∉ items.map Prod.fst) :
    otherItems items = items := by
  apply List.filter_eq_self.mpr
  intro item member
  rw [decide_eq_true_iff]
  rintro same
  exact absent (List.mem_map.mpr ⟨item, member, same⟩)

/-- The nodes differ at most in where they list the item. -/
def DifferInPlace (item : String × Clvm) (node node' : Clvm) : Prop :=
  ∃ root before after before' after', before ++ after = before' ++ after' ∧
    node = .pair root (.ofList ((before ++ item :: after).map itemToClvm)) ∧
    node' = .pair root (.ofList ((before' ++ item :: after').map itemToClvm))

/-- Unrepeated size entries are the only freedom between nodes with the same other entries. -/
theorem SizeUnrepeated.differ_in_place {node node' : Clvm} {metadata metadata' : DigDataStoreMetadata}
    {bucket : SizeBucket} (unrepeated : SizeUnrepeated node) (unrepeated' : SizeUnrepeated node')
    (accepted : fromClvm node = .ok metadata) (size : metadata.sizeBucket = some bucket)
    (accepted' : fromClvm node' = .ok metadata') (size' : metadata'.sizeBucket = some bucket)
    (root : metadata.rootHash = metadata'.rootHash)
    (others : (alistItems node).map otherItems = (alistItems node').map otherItems) :
    DifferInPlace ("sz", .ofByte bucket.exponent) node node' := by
  obtain ⟨before, after, rfl, first, last⟩ := unrepeated.split accepted size
  obtain ⟨before', after', rfl, first', last'⟩ := unrepeated'.split accepted' size'
  have rest : ∀ front back : List (String × Clvm), "sz" ∉ front.map Prod.fst → "sz" ∉ back.map Prod.fst →
      otherItems (front ++ ("sz", .ofByte bucket.exponent) :: back) = front ++ back := by
    intro front back absent absent'
    rw [otherItems, List.filter_append, List.filter_cons_of_neg (by simp)]
    exact congrArg₂ (· ++ ·) (otherItems_self absent) (otherItems_self absent')
  rw [alistItems_pair, alistItems_pair] at others
  have same : before ++ after = before' ++ after' := by
    rw [← rest before after first last, ← rest before' after' first' last']
    exact Except.ok.inj others
  exact ⟨_, before, after, before', after', same, rfl, by rw [root]⟩

/-- From an accepted node with a bucket: the bucket's encoding is the one size entry exactly
when the size key is not repeated, and between two nodes that do not repeat it nothing but
the place of that entry is free. -/
theorem size_entry_unique_iff {node : Clvm} {metadata : DigDataStoreMetadata} {bucket : SizeBucket}
    (accepted : fromClvm node = .ok metadata) (size : metadata.sizeBucket = some bucket) :
    (SizeOnce node bucket ↔ SizeUnrepeated node) ∧
    ∀ node' metadata', fromClvm node' = .ok metadata' → metadata'.sizeBucket = some bucket →
      metadata.rootHash = metadata'.rootHash →
      (alistItems node).map otherItems = (alistItems node').map otherItems →
      SizeUnrepeated node → SizeUnrepeated node' → DifferInPlace ("sz", .ofByte bucket.exponent) node node' := by
  refine ⟨sizeOnce_iff accepted size, ?_⟩
  intro node' metadata' accepted' size' root others unrepeated unrepeated'
  exact unrepeated.differ_in_place unrepeated' accepted size accepted' size' root others

section Samples

def zeroRoot : Bytes32 := ⟨List.replicate 32 0, rfl⟩

def mebibytes8 : SizeBucket := ⟨3, by decide⟩

def mebibytes32 : SizeBucket := ⟨5, by decide⟩

/-- A record with a bucket alone. -/
def sizedRecord : DigDataStoreMetadata := ⟨zeroRoot, none, none, none, none, some mebibytes32⟩

/-- A node with one size entry for each bucket. -/
def sizedNode (buckets : List SizeBucket) : Clvm :=
  .pair zeroRoot.toClvm (.ofList ((buckets.map fun bucket => ("sz", Clvm.ofByte bucket.exponent)).map itemToClvm))

theorem encoded_size_once : SizeOnce sizedRecord.toClvm mebibytes32 := by
  have accepted : fromClvm sizedRecord.toClvm = .ok sizedRecord := fromClvm_toClvm _
  have unrepeated : SizeUnrepeated sizedRecord.toClvm := by
    intro items listed
    cases (alistItems_pair _ sizedRecord.items).symm.trans listed
    decide
  exact (size_entry_unique_iff accepted rfl).1.mpr unrepeated

/-- A second size entry is read over: two nodes with the same root, no other entries and the
same bucket, of which one lists another bucket too. -/
theorem repeated_size_accepted :
    fromClvm (sizedNode [mebibytes32]) = .ok sizedRecord ∧
    fromClvm (sizedNode [mebibytes8, mebibytes32]) = .ok sizedRecord ∧
    ¬ SizeOnce (sizedNode [mebibytes8, mebibytes32]) mebibytes32 := by
  refine ⟨fromClvm_eq_ok.mpr ⟨_, _, rfl, rfl⟩, fromClvm_eq_ok.mpr ⟨_, _, rfl, rfl⟩, ?_⟩
  intro once
  obtain ⟨items, listed, single⟩ := once
  cases (alistItems_pair _ _).symm.trans listed
  exact absurd single (by decide)

end Samples

/-- An entry under an atom that is none of the five keys. -/
def ForeignEntry (node : Clvm) : Prop :=
  ∃ bytes value, node = .pair (.atom bytes) value ∧ ∀ key ∈ keys, .atom bytes ≠ Clvm.ofString key

/-- Every key of the alist is text. -/
def TextKeys (entries : List Clvm) : Prop :=
  ∀ bytes value, .pair (.atom bytes) value ∈ entries → ByteArray.IsValidUTF8 ⟨bytes.toArray⟩

theorem itemToClvm_injective : Function.Injective itemToClvm := by
  intro item other same
  have decoded := itemFromClvm_eq_ok.mpr same
  rw [itemFromClvm_eq_ok.mpr rfl] at decoded
  exact Except.ok.inj decoded

theorem isValidUTF8_iff {bytes : List UInt8} :
    ByteArray.IsValidUTF8 ⟨bytes.toArray⟩ ↔ ∃ text, .atom bytes = Clvm.ofString text := by
  constructor
  · intro valid
    exact ⟨.ofByteArray ⟨bytes.toArray⟩ valid, rfl⟩
  · intro text
    obtain ⟨text, same⟩ := text
    cases same
    exact text.isValidUTF8

theorem textKeys_items (items : List (String × Clvm)) : TextKeys (items.map itemToClvm) := by
  intro bytes value member
  obtain ⟨item, _, same⟩ := List.mem_map.mp member
  obtain ⟨key, _⟩ := Clvm.pair.inj same
  exact isValidUTF8_iff.mpr ⟨item.1, key.symm⟩

theorem TextKeys.items {entries : List Clvm} {own : List (String × Clvm)} (text : TextKeys entries)
    (inserted : Interspersed ForeignEntry (own.map itemToClvm) entries) :
    ∃ items : List (String × Clvm), items.map itemToClvm = entries := by
  rw [← Set.mem_range, Set.range_list_map]
  intro entry member
  rcases inserted.mem member with encoded | foreign
  · obtain ⟨item, _, same⟩ := List.mem_map.mp encoded
    exact ⟨item, same⟩
  · obtain ⟨bytes, value, rfl, _⟩ := foreign
    obtain ⟨key, same⟩ := isValidUTF8_iff.mp (text bytes value member)
    exact ⟨(key, value), by rw [itemToClvm, same]⟩

/-- Whatever foreign entries are put in between a record's own, the node is read as the
record exactly when every key is text. -/
theorem foreign_keys_ignored_iff (metadata : DigDataStoreMetadata) {entries : List Clvm}
    (inserted : Interspersed ForeignEntry (metadata.items.map itemToClvm) entries) :
    fromClvm (.pair metadata.rootHash.toClvm (.ofList entries)) = .ok metadata ↔ TextKeys entries := by
  constructor
  · intro accepted
    obtain ⟨rootHash, items, shape, _⟩ := fromClvm_eq_ok.mp accepted
    rw [Clvm.ofList_injective (Clvm.pair.inj shape).2]
    exact textKeys_items items
  · intro text
    obtain ⟨items, rfl⟩ := text.items inserted
    have unknown : Interspersed (fun item => item.1 ∉ keys) metadata.items items := by
      refine (inserted.of_map itemToClvm_injective).imp ?_
      intro item foreign known
      obtain ⟨bytes, value, same, other⟩ := foreign
      exact other item.1 known (Clvm.pair.inj same).1.symm
    have own : knownItems keys items = metadata.items :=
      unknown.knownItems fun item member =>
        metadata.items_keys_sublist.subset (List.mem_map_of_mem member)
    apply fromClvm_eq_ok.mpr
    refine ⟨_, items, rfl, ?_⟩
    rw [← readItem_skips.foldlM_knownItems, own]
    exact metadata.readItems_self

section Samples

/-- The root alone, with one entry under the given key. -/
def taggedNode (key : List UInt8) : Clvm := .pair zeroRoot.toClvm (.ofList [.pair (.atom key) (.atom [])])

theorem tagged_interspersed {key : List UInt8} (foreign : ∀ known ∈ keys, .atom key ≠ Clvm.ofString known) :
    Interspersed ForeignEntry ((rootHashOnly zeroRoot).items.map itemToClvm) [.pair (.atom key) (.atom [])] :=
  .extra _ ⟨key, _, rfl, foreign⟩ .nil

theorem text_key_ignored : fromClvm (taggedNode "x".toUTF8.data.toList) = .ok (rootHashOnly zeroRoot) := by
  have text : TextKeys [.pair (.atom "x".toUTF8.data.toList) (.atom [])] := textKeys_items [("x", .atom [])]
  exact (foreign_keys_ignored_iff (rootHashOnly zeroRoot) (tagged_interspersed (by decide))).mpr text

/-- One byte that is no text is an unknown key too, and the node is not read. -/
theorem binary_key_rejected :
    Interspersed ForeignEntry ((rootHashOnly zeroRoot).items.map itemToClvm) [.pair (.atom [255]) (.atom [])] ∧
    Fails (fromClvm (taggedNode [255])) := by
  refine ⟨tagged_interspersed (by decide), ?_⟩
  by_contra read
  obtain ⟨metadata, accepted⟩ := not_fails_iff.mp read
  obtain ⟨rootHash, items, shape, _⟩ := fromClvm_eq_ok.mp accepted
  have text : TextKeys [.pair (.atom [255]) (.atom [])] := by
    rw [Clvm.ofList_injective (Clvm.pair.inj shape).2]
    exact textKeys_items items
  have valid := text [255] (.atom []) (List.mem_singleton_self _)
  exact absurd valid (by decide +kernel)

end Samples

end DigDataStoreMetadata

end DigMerkle
