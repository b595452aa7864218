import DigMerkle.Model.SdkMetadata

namespace DigMerkle

open Library

/-- Every record is read back from its encoding, and so no two records share one: a
present field is told from an absent one even where its value is the empty atom. -/
theorem metadata_round_trips : (∀ metadata : DigDataStoreMetadata,
      DigDataStoreMetadata.fromClvm metadata.toClvm = .ok metadata) ∧
    Function.Injective DigDataStoreMetadata.toClvm :=
  ⟨DigDataStoreMetadata.fromClvm_toClvm, fun _ _ => DigDataStoreMetadata.toClvm_injective⟩

/-- An empty label and the smallest bucket both encode to the atom that ends the list. -/
example : (DigDataStoreMetadata.mk ⟨List.replicate 32 0, rfl⟩ (some "") none none none
    (some ⟨0, by decide⟩)).items = [("l", .atom []), ("sz", .atom [])] := by decide

/-- The fields of a record that the SDK's record has too. -/
def DigDataStoreMetadata.toSdk (metadata : DigDataStoreMetadata) : DatastoreMetadata :=
  ⟨metadata.rootHash, metadata.label, metadata.description, none, metadata.sizeProof⟩

/-- The fields of an SDK record that the crate's record has too. -/
def DatastoreMetadata.toDig (metadata : DatastoreMetadata) : DigDataStoreMetadata :=
  ⟨metadata.rootHash, metadata.label, metadata.description, metadata.sizeProof, none, none⟩

variable {integers : IntegerCodec}

theorem knownItems_sdk (integers : IntegerCodec) (metadata : DigDataStoreMetadata) :
    knownItems DatastoreMetadata.keys metadata.items = metadata.toSdk.items integers := by
  obtain ⟨rootHash, label, description, sizeProof, programHash, sizeBucket⟩ := metadata
  cases label <;> cases description <;> cases sizeProof <;> cases programHash <;>
    cases sizeBucket <;> rfl

theorem knownItems_dig (metadata : DatastoreMetadata) :
    knownItems DigDataStoreMetadata.keys (metadata.items integers) = metadata.toDig.items := by
  obtain ⟨rootHash, label, description, bytes, sizeProof⟩ := metadata
  cases label <;> cases description <;> cases bytes <;> cases sizeProof <;> rfl

theorem sdk_reads_dig (metadata : DigDataStoreMetadata) :
    DatastoreMetadata.fromClvm integers metadata.toClvm = .ok metadata.toSdk := by
  have skipped := (DatastoreMetadata.readItem_skips integers).foldlM_knownItems metadata.items
    (DatastoreMetadata.rootHashOnly metadata.rootHash)
  have uncounted : metadata.toSdk.bytes = none := rfl
  rw [DigDataStoreMetadata.toClvm, DatastoreMetadata.fromClvm_items, ← skipped, knownItems_sdk]
  exact DatastoreMetadata.readItems_self uncounted

theorem dig_reads_sdk (metadata : DatastoreMetadata) :
    DigDataStoreMetadata.fromClvm (metadata.toClvm integers) = .ok metadata.toDig := by
  have skipped := DigDataStoreMetadata.readItem_skips.foldlM_knownItems (metadata.items integers)
    (DigDataStoreMetadata.rootHashOnly metadata.rootHash)
  rw [knownItems_dig] at skipped
  exact DigDataStoreMetadata.fromClvm_eq_ok.mpr
    ⟨metadata.rootHash, metadata.items integers, rfl, skipped.symm.trans metadata.toDig.readItems_self⟩

/-- Each format is read by the other's reader, and the two encodings coincide on the
records that both have. -/
theorem metadata_formats_agree (integers : IntegerCodec) :
    (∀ metadata : DigDataStoreMetadata,
      DatastoreMetadata.fromClvm integers metadata.toClvm = .ok metadata.toSdk) ∧
    (∀ rootHash label description sizeProof,
      (DigDataStoreMetadata.mk rootHash label description sizeProof none none).toClvm =
        (DatastoreMetadata.mk rootHash label description none sizeProof).toClvm integers) ∧
    (∀ metadata : DatastoreMetadata,
      DigDataStoreMetadata.fromClvm (metadata.toClvm integers) = .ok metadata.toDig) := by
  refine ⟨sdk_reads_dig, ?_, dig_reads_sdk⟩
  intro rootHash label description sizeProof
  cases label <;> cases description <;> cases sizeProof <;> rfl

end DigMerkle
