import DigMerkle.Proof.Lifetime
import DigMerkle.Proof.Mint

namespace DigMerkle

open Library

variable {Allocator : Type} {sdk : Sdk Allocator}

theorem launchedStore_eq (memo : MemoLaw sdk) {coin : Coin} {puzzleHash inner owner : Bytes32} {amount : UInt64}
    {metadata : DigDataStoreMetadata} {set : List DelegatedPuzzle}
    (authority : authorityPuzzleHash sdk (sdk.coinId coin) owner set = .ok inner) :
    launchedStore sdk coin ⟨puzzleHash, amount, metadata.toClvm, inner,
      if set = [] then [] else sdk.recreationMemos owner set⟩ =
    .ok ⟨⟨sdk.coinId coin, puzzleHash, amount⟩, .eve ⟨coin.parentCoinInfo, coin.amount⟩,
      ⟨sdk.coinId coin, metadata, owner, set⟩⟩ := by
  have decoded := DigDataStoreMetadata.fromClvm_toClvm metadata
  refine launchedStore_eq_ok.mpr ⟨metadata, owner, set, (LauncherSolution.current decoded sdk (sdk.coinId coin)).1,
    ?_, rfl⟩
  rw [(LauncherSolution.current decoded sdk (sdk.coinId coin)).2]
  by_cases empty : set = []
  · have same : owner = inner := by simpa [authorityPuzzleHash, empty] using authority
    simp only [empty, ↓reduceIte]
    rw [memo.bare, same]
  · simp only [empty, ↓reduceIte]
    rw [memo.hinted _ _ _ _ _ empty]

/-- The launcher spend that a launch stages hydrates to the store it reports. -/
theorem Launched.hydrates (mint : MintLaw sdk) (memo : MemoLaw sdk) (fromSpend : FromSpendLaw sdk)
    {kind : StoreKind} {launcher : Launcher} {metadata : DigDataStoreMetadata} {ownerPuzzleHash : Bytes32}
    {set : List DelegatedPuzzle} {ctx after : SpendContext Allocator} {launch : DatastoreLaunch}
    {spend : CoinSpend} (launched : Launched sdk kind launcher metadata ownerPuzzleHash set ctx launch after)
    (staged : after.coinSpends = ctx.coinSpends ++ [spend]) : hydrate sdk spend = .ok launch.datastore := by
  obtain ⟨conditions, stagedCtx, minted, _, _, kept⟩ := launched.minted
  obtain ⟨inner, authority, store, shown⟩ := mint.store minted
  obtain ⟨other, appended, coin⟩ := mint.staged minted
  have same : spend = other := by
    have ends := (staged.symm.trans kept).trans appended
    simpa using ends
  obtain ⟨⟨puzzle, reveal, hash⟩, solution, solved, opened⟩ := shown spend (by rw [same]; exact appended)
  rw [← same] at coin
  have record : launch.datastore = _ := store
  have launcherHash : spend.coin.puzzleHash = sdk.singletonLauncherHash := by rw [coin, launched.legal]
  rw [hydrate_eq_ok, fromSpend.launched launcherHash solved opened, coin, launchedStore_eq memo authority, record]
  exact ⟨⟨puzzle, reveal, hash.trans launcherHash.symm⟩, rfl⟩

theorem Minted.launcher_found (mint : MintLaw sdk) {kind : StoreKind} {parentCoin : Coin}
    {publicKey : PublicKey} {metadata : DigDataStoreMetadata} {ownerPuzzleHash : Bytes32}
    {set : List DelegatedPuzzle} {fee : UInt64} {launch : DatastoreLaunch}
    {launcherSpend parentSpend : CoinSpend} {conditions : Conditions}
    (minted : Minted sdk kind parentCoin publicKey metadata ownerPuzzleHash set fee launch launcherSpend
      parentSpend conditions) :
    [launcherSpend, parentSpend].find? (fun spend => sdk.coinId spend.coin = launch.datastore.info.launcherId) =
      some launcherSpend := by
  obtain ⟨after, launched, _⟩ := minted.launched
  have identity := (launched.coherent mint).1.launcherId
  rw [identity, ← minted.launcherCoin]
  simp

/-- A committed coin's update by its owner hydrates to the child it reports. -/
theorem Updated.hydrates (laws : UpdateLaws sdk) {publicKey : PublicKey} {newMetadata : DigDataStoreMetadata}
    {store child : Datastore DigDataStoreMetadata} {spend : CoinSpend} {inner : Bytes32} {view : StoreSpend}
    (updated : Updated sdk publicKey newMetadata store spend child inner view)
    (committed : CommitsTo sdk store)
    (owner : sdk.standardCurryTreeHash publicKey = store.info.ownerPuzzleHash) :
    hydrate sdk spend = .ok child := by
  have own := revealedOwner_self owner
  rw [hydrate_eq_ok, updated.fromSpend laws own, updated.child_eq laws own]
  exact ⟨updated.toSpentBy.reveals laws.curry committed (revealedOwner_eq owner), rfl⟩

section Samples

open Reference

end Samples

end DigMerkle
