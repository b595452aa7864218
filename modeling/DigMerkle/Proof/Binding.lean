import DigMerkle.Proof.ReadBack
import Mathlib.Data.Set.Function

namespace DigMerkle

open Library

variable {Allocator : Type} {sdk : Sdk Allocator}

/-- Every spend of a bundle passes the check that the readers make. -/
def AllBound (sdk : Sdk Allocator) (built : MerkleCoinSpend) : Prop :=
  ∀ spend ∈ built.coinSpends, requireRevealMatchesCoin sdk spend = .ok ()

instance (built : MerkleCoinSpend) : Decidable (AllBound sdk built) :=
  inferInstanceAs (Decidable (∀ spend ∈ built.coinSpends, requireRevealMatchesCoin sdk spend = .ok ()))

/-- The spend of the reported store's launcher coin passes that check. -/
def LauncherBound (sdk : Sdk Allocator) (built : MerkleCoinSpend) : Prop :=
  ∃ child spend, built.child = some child ∧
    built.coinSpends.find? (fun spend => sdk.coinId spend.coin = child.info.launcherId) = some spend ∧
    requireRevealMatchesCoin sdk spend = .ok ()

section Mints

variable {kind : StoreKind} {parentCoin : Coin} {publicKey : PublicKey} {metadata : DigDataStoreMetadata}
  {ownerPuzzleHash : Bytes32} {set : List DelegatedPuzzle} {fee : UInt64} {launch : DatastoreLaunch}
  {launcherSpend parentSpend : CoinSpend} {conditions : Conditions}

theorem Minted.launcher_bound (mint : MintLaw sdk) (memo : MemoLaw sdk) (fromSpend : FromSpendLaw sdk)
    (minted : Minted sdk kind parentCoin publicKey metadata ownerPuzzleHash set fee launch launcherSpend
      parentSpend conditions) : requireRevealMatchesCoin sdk launcherSpend = .ok () := by
  obtain ⟨after, launched, only⟩ := minted.launched
  have hydrated := launched.hydrates mint memo fromSpend only
  exact requireRevealMatchesCoin_eq_ok.mpr (hydrate_eq_ok.mp hydrated).1

/-- A mint's launcher spend is always bound, so the bundle is when the key curries
to the parent coin's puzzle hash. -/
theorem Minted.allBound_iff (curry : CurryLaw sdk) (standard : StandardLaw sdk) (mint : MintLaw sdk)
    (memo : MemoLaw sdk) (fromSpend : FromSpendLaw sdk)
    (minted : Minted sdk kind parentCoin publicKey metadata ownerPuzzleHash set fee launch launcherSpend
      parentSpend conditions) :
    AllBound sdk ⟨[launcherSpend, parentSpend], some launch.datastore⟩ ↔
      sdk.standardCurryTreeHash publicKey = parentCoin.puzzleHash := by
  have launcher := minted.launcher_bound mint memo fromSpend
  obtain ⟨inner, _, _, signed, reveal, _⟩ := minted.signed
  have hash : sdk.treeHash inner.puzzle = sdk.standardCurryTreeHash publicKey := by
    rw [standard.reveals signed, curry.standard]
  have parent : (∃ puzzle, Reveals sdk parentSpend puzzle) ↔
      sdk.standardCurryTreeHash publicKey = parentCoin.puzzleHash := by
    constructor
    · intro bound
      rcases bound with ⟨puzzle, decoded, bound⟩
      cases reveal.symm.trans decoded
      rw [← hash, bound, minted.parent]
    · intro same
      exact ⟨inner.puzzle, reveal, by rw [hash, same, minted.parent]⟩
  rw [requireRevealMatchesCoin_eq_ok] at launcher
  simp only [AllBound, List.forall_mem_cons, requireRevealMatchesCoin_eq_ok]
  rw [parent]
  exact ⟨fun ⟨_, same, _⟩ => same, fun same => ⟨launcher, same, by simp⟩⟩

end Mints

/-- A delegation layer is rebuilt from the record whoever spends it, and without
one the key's own puzzle stands in the owner's place. -/
theorem SpentBy.reveals_iff (curry : CurryLaw sdk) {publicKey : PublicKey} {conditions : Conditions}
    {store : Datastore DigDataStoreMetadata} {spend : CoinSpend} {view : StoreSpend}
    (spent : SpentBy sdk publicKey conditions store spend view) (committed : CommitsTo sdk store)
    (collisionFree : Set.InjOn (storePuzzleHash sdk store.info.launcherId store.info.metadata)
      {sdk.standardCurryTreeHash publicKey, store.info.ownerPuzzleHash}) :
    (∃ puzzle, Reveals sdk spend puzzle) ↔ store.info.delegatedPuzzles ≠ [] ∨
      sdk.standardCurryTreeHash publicKey = store.info.ownerPuzzleHash := by
  constructor
  · intro bound
    rcases bound with ⟨puzzle, decoded, bound⟩
    apply or_iff_not_imp_left.mpr
    intro delegated
    have empty := not_not.mp delegated
    obtain ⟨inner, authority, puzzleHash⟩ := committed
    obtain ⟨_, reveal, hash⟩ := spent.reveal_hash curry
    have revealed := spent.inner_hash curry
    cases reveal.symm.trans decoded
    simp only [innerPuzzleHash, authorityPuzzleHash, revealedOwner, empty, List.isEmpty_nil, ↓reduceIte,
      Except.ok.injEq] at authority revealed
    apply collisionFree (.inl rfl) (.inr rfl)
    rw [revealed, ← hash, bound, spent.coin, puzzleHash, authority]
  · intro condition
    rcases condition with delegated | key
    · exact spent.reveals curry committed (if_neg delegated)
    · exact spent.reveals curry committed (revealedOwner_eq key)

/-- Exactly which successful mints and updates return only spends that their coins
commit to; the launcher's spend of a mint is always one. -/
theorem built_spends_bound_iff (laws : SpendLaws sdk) (memo : MemoLaw sdk) (fromSpend : FromSpendLaw sdk)
    (mint : MintLaw sdk) (stage : StageLaw sdk) (publicKey : PublicKey) :
    (∀ {kind parentCoin metadata ownerPuzzleHash set fee built},
      mintDatastoreWithKind sdk kind parentCoin (.standard publicKey) metadata ownerPuzzleHash set fee = .ok built →
      LauncherBound sdk built ∧
        (AllBound sdk built ↔ sdk.standardCurryTreeHash publicKey = parentCoin.puzzleHash)) ∧
    (∀ {store newMetadata built}, CommitsTo sdk store →
      Set.InjOn (storePuzzleHash sdk store.info.launcherId store.info.metadata)
        {sdk.standardCurryTreeHash publicKey, store.info.ownerPuzzleHash} →
      updateRoot sdk store (.standard publicKey) newMetadata = .ok built →
      (AllBound sdk built ↔ store.info.delegatedPuzzles ≠ [] ∨
        sdk.standardCurryTreeHash publicKey = store.info.ownerPuzzleHash)) := by
  constructor
  · intro kind parentCoin metadata ownerPuzzleHash set fee built success
    obtain ⟨_, launch, launcherSpend, parentSpend, conditions, same, rfl, minted⟩ :=
      mintDatastoreWithKind_eq_ok mint.toStagingLaw stage success
    cases same
    have launcher := minted.launcher_bound mint memo fromSpend
    exact ⟨⟨launch.datastore, launcherSpend, rfl, minted.launcher_found mint, launcher⟩,
      minted.allBound_iff laws.curry laws.standard mint memo fromSpend⟩
  · intro store newMetadata built committed collisionFree success
    obtain ⟨spend, child, inner, view, rfl, updated⟩ := updateRoot_eq_ok laws success
    rw [← updated.toSpentBy.reveals_iff laws.curry committed collisionFree]
    simp [AllBound, requireRevealMatchesCoin_eq_ok]

section Samples

open Reference

/-- An undelegated store whose coin commits to its record. -/
def plainStore : Datastore DigDataStoreMetadata :=
  ⟨⟨hash32 3, storePuzzleHash wallet (hash32 3) Reference.metadata ownerHash, 1⟩, .eve ⟨hash32 1, 1⟩,
    ⟨hash32 3, Reference.metadata, ownerHash, []⟩⟩

theorem plainStore_committed : CommitsTo wallet plainStore := ⟨ownerHash, rfl, rfl⟩

theorem owner_spends_bound : (∃ built, mintFrom 1000 10 = .ok built ∧ AllBound wallet built) ∧
    ∃ built, updateRoot wallet plainStore (.standard ownerKey) updatedMetadata = .ok built ∧
      AllBound wallet built := by
  have mints : (mintFrom 1000 10).isOk = true := by decide +kernel
  have updates : (updateRoot wallet plainStore (.standard ownerKey) updatedMetadata).isOk = true := by
    decide +kernel
  obtain ⟨minted, mintSuccess⟩ := except_isOk_iff.mp mints
  obtain ⟨updated, updateSuccess⟩ := except_isOk_iff.mp updates
  have bound := built_spends_bound_iff spendLaws memoLaw fromSpendLaw mintLaw stageLaw ownerKey
  have collisionFree : Set.InjOn (storePuzzleHash wallet plainStore.info.launcherId plainStore.info.metadata)
      {wallet.standardCurryTreeHash ownerKey, plainStore.info.ownerPuzzleHash} := by
    rintro _ (rfl | rfl) _ (rfl | rfl) _ <;> rfl
  refine ⟨⟨minted, mintSuccess, ?_⟩, updated, updateSuccess, ?_⟩
  · unfold mintFrom at mintSuccess
    exact (bound.1 mintSuccess).2.mpr rfl
  · exact (bound.2 plainStore_committed collisionFree updateSuccess).mpr (.inr rfl)

def strangerKey : PublicKey := key 6

def strangerMint : MerkleResult MerkleCoinSpend :=
  mintDatastoreWithKind wallet .file (ownedCoin 1000) (.standard strangerKey) Reference.metadata ownerHash [] 10

/-- Neither a parent coin's mint nor a store's update refuses a stranger's key. -/
theorem stranger_spends_unbound : CommitsTo wallet plainStore ∧
    (∃ built, strangerMint = .ok built ∧ ¬ AllBound wallet built) ∧
    ∃ built, updateRoot wallet plainStore (.standard strangerKey) updatedMetadata = .ok built ∧
      ¬ AllBound wallet built := by
  have minted : strangerMint.toOption.map (fun built => decide (AllBound wallet built)) = some false := by
    decide +kernel
  have updates : (updateRoot wallet plainStore (.standard strangerKey) updatedMetadata).toOption.map
      (fun built => decide (AllBound wallet built)) = some false := by decide +kernel
  exact ⟨plainStore_committed, except_toOption_decide.mp minted, except_toOption_decide.mp updates⟩

end Samples

end DigMerkle
