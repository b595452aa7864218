import DigMerkle.Proof.Binding

/-! The authority a hydrated recreation names. Hydration supplies no set of the
parent's, so without memos it can name neither a set that a layer keeps nor an
owner that an undelegated store is transferred to. -/

namespace DigMerkle

open Library

variable {Allocator : Type} {sdk : Sdk Allocator}

section Shown

variable {view : StoreSpend} {conditions : Conditions} {created : CreateCoin} {memos : List (List UInt8)}

end Shown

section Samples

open Reference

/-- An admin's puzzle, which replaces the metadata. -/
def adminPuzzle : Clvm := .pair (.atom [1]) (encodeConditions [.newMetadata updatedMetadata.toClvm])

def adminSet : List DelegatedPuzzle := [.admin (treeHash adminPuzzle)]

def adminLayerHash : Bytes32 := authority (hash32 3) ownerHash adminSet

/-- A store with one admin, whose coin commits to its record. -/
def adminStore : Datastore DigDataStoreMetadata :=
  ⟨⟨hash32 3, storePuzzleHash wallet (hash32 3) Reference.metadata adminLayerHash, 1⟩, .eve ⟨hash32 1, 1⟩,
    ⟨hash32 3, Reference.metadata, ownerHash, adminSet⟩⟩

def unhinted (puzzleHash : Bytes32) : CreateCoin := ⟨puzzleHash, 1, memosOf [(hash32 3).bytes]⟩

/-- The owner's spend that recreates a store to another puzzle, without hints. -/
def transferInner : Spend := ⟨standardPuzzle ownerKey, encodeConditions [.createCoin (unhinted (hash32 8))]⟩

def transferConditions : Conditions := [.aggSigMe ownerKey, .createCoin (unhinted (hash32 8))]

theorem transfer_hydrates : (hydrate wallet (datastoreSpend adminStore transferInner)).isOk = true := by
  decide +kernel

def adminConditions : Conditions := [.createCoin (unhinted adminLayerHash), .newMetadata updatedMetadata.toClvm]

end Samples

end DigMerkle
