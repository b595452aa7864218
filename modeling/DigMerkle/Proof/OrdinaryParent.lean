import DigMerkle.Proof.IntermediateLaunch
import DigMerkle.Proof.MintOutcome

namespace DigMerkle

open Library

variable {Allocator : Type} {sdk : Sdk Allocator}

section Creators

variable {spend : CoinSpend} {puzzle : Clvm}

theorem not_did_of_ordinary (law : OrdinaryPuzzleLaw sdk) (reveals : Reveals sdk spend puzzle)
    (ordinary : IsOrdinary sdk puzzle) (didRef : DidRef) : didRefFromSpend sdk spend ≠ .ok (some didRef) := by
  intro recognised
  obtain ⟨puzzle', solution, reveals', _, parsed⟩ := didRefFromSpend_eq_some.mp recognised
  cases reveals.1.symm.trans reveals'.1
  obtain ⟨curried, shown, mod, _⟩ := ordinary
  cases parsed.symm.trans (law.notDid shown mod)

theorem not_intermediate_of_ordinary (reveals : Reveals sdk spend puzzle) (ordinary : IsOrdinary sdk puzzle)
    (launcherCoin : Coin) : isLauncherIntermediate sdk spend launcherCoin = false := by
  rw [← Bool.not_eq_true]
  intro intermediate
  obtain ⟨_, puzzle', curried', _, reveals', shown', mod', _⟩ := isLauncherIntermediate_eq_true.mp intermediate
  cases reveals.1.symm.trans reveals'.1
  obtain ⟨curried, shown, _, mod⟩ := ordinary
  cases shown.symm.trans shown'
  exact mod mod'

end Creators

section Parents

variable {launcherSpend parentSpend : CoinSpend} {puzzle : Clvm} {chain : ChainSource}

/-- Whatever a source serves, the walk from a launcher under an ordinary coin finds no DID:
ids bind the coins that it is served, and coins bind their puzzles. -/
theorem ordinary_parent_not_attributed (law : OrdinaryPuzzleLaw sdk)
    (descends : launcherSpend.coin.parentCoinInfo = sdk.coinId parentSpend.coin)
    (reveals : Reveals sdk parentSpend puzzle) (ordinary : IsOrdinary sdk puzzle)
    (free : CollisionFree sdk ({spend | Ancestry chain (sdk.coinId launcherSpend.coin) spend} ∪
      {spend | spend ∈ [launcherSpend, parentSpend]})) (didRef : DidRef) :
    resolveOwnerDid sdk (sdk.coinId launcherSpend.coin) chain ≠ .ok (some didRef) := by
  intro resolved
  obtain ⟨launcher, creator, readLauncher, readCreator, hop⟩ := resolveOwnerDid_eq_some resolved
  obtain ⟨served, launcherId⟩ := readSpendOf_eq_some.mp readLauncher
  obtain ⟨servedCreator, creatorId⟩ := readSpendOf_eq_some.mp readCreator
  have ancestor := Ancestry.parent (.launcher served) servedCreator
  have own : parentSpend ∈ [launcherSpend, parentSpend] := .tail _ (.head _)
  have sameLauncher := free.same_coin (.inl (.launcher served)) (.inr (.head _)) launcherId
  have sameCreator := free.same_coin (.inl ancestor) (.inr own) (by rw [creatorId, sameLauncher, descends])
  have bound : ∀ {puzzle'}, Reveals sdk creator puzzle' → Reveals sdk creator puzzle := by
    intro puzzle' reveals'
    rwa [free.same_puzzle (.inr own) (.inl ancestor) reveals reveals' sameCreator.symm]
  cases hop with
  | first recognised =>
    obtain ⟨_, _, reveals', _⟩ := didRefFromSpend_eq_some.mp recognised
    exact not_did_of_ordinary law (bound reveals') ordinary didRef recognised
  | second _ intermediate _ _ =>
    obtain ⟨_, _, _, _, reveals', _⟩ := isLauncherIntermediate_eq_true.mp intermediate
    have plain := not_intermediate_of_ordinary (bound reveals') ordinary launcher.coin
    cases plain.symm.trans intermediate

/-- A source that has both spends gets the answer that there is none. -/
theorem ordinary_parent_answered (law : OrdinaryPuzzleLaw sdk)
    (descends : launcherSpend.coin.parentCoinInfo = sdk.coinId parentSpend.coin)
    (reveals : Reveals sdk parentSpend puzzle) (ordinary : IsOrdinary sdk puzzle) {solution : Clvm}
    (solved : sdk.programToClvm parentSpend.solution = .ok solution)
    (served : ∀ spend ∈ [launcherSpend, parentSpend], chain (sdk.coinId spend.coin) = .ok (some spend)) :
    resolveOwnerDid sdk (sdk.coinId launcherSpend.coin) chain = .ok none := by
  have launcher : readLauncherSpend sdk chain (sdk.coinId launcherSpend.coin) = .ok (some launcherSpend) :=
    readSpendOf_served (served launcherSpend (.head _))
  have creator : readBoundSpend sdk chain launcherSpend.coin.parentCoinInfo = .ok (some parentSpend) := by
    rw [descends]
    exact readSpendOf_served (served parentSpend (.tail _ (.head _)))
  have plain : didRefFromSpend sdk parentSpend = .ok none := by
    obtain ⟨curried, shown, mod, _⟩ := ordinary
    exact didRefFromSpend_eq_ok.mpr ⟨puzzle, solution, none, reveals, solved, law.notDid shown mod, rfl⟩
  have stops := not_intermediate_of_ordinary reveals ordinary launcherSpend.coin
  simp [resolveOwnerDid, launcher, resolveFromLauncher, creator, plain, resolveThroughIntermediate, stops, bind,
    Except.bind]

end Parents

/-- A store minted from a coin of its payer's key is never attributed to a DID, whatever a
source serves, and a source that has the mint's spends gets the answer that there is none. -/
theorem minted_store_has_no_did (curry : CurryLaw sdk) (standard : StandardLaw sdk) (launcherLaw : LauncherLaw sdk)
    (mint : MintLaw sdk) (stage : StageLaw sdk) (law : OrdinaryPuzzleLaw sdk) {call : MintCall}
    {built : MerkleCoinSpend} {store : Datastore DigDataStoreMetadata} {publicKey : PublicKey}
    (success : call.run sdk = .ok built) (reported : built.child = some store)
    (authorized : call.owner = .standard publicKey)
    (locked : call.parentCoin.puzzleHash = sdk.standardCurryTreeHash publicKey) {chain : ChainSource}
    (free : CollisionFree sdk ({spend | Ancestry chain store.info.launcherId spend} ∪
      {spend | spend ∈ built.coinSpends})) :
    (∀ didRef, resolveOwnerDid sdk store.info.launcherId chain ≠ .ok (some didRef)) ∧
      ((∀ spend ∈ built.coinSpends, chain (sdk.coinId spend.coin) = .ok (some spend)) →
        resolveOwnerDid sdk store.info.launcherId chain = .ok none) := by
  obtain ⟨key, launch, launcherSpend, parentSpend, _, payer, rfl, minted⟩ :=
    mintDatastoreWithKind_eq_ok mint.toStagingLaw stage success
  cases reported
  cases payer.symm.trans authorized
  obtain ⟨after, launched, _⟩ := minted.launched
  obtain ⟨inner, _, _, signed, reveal, solved⟩ := minted.signed
  have launcherId : launch.datastore.info.launcherId = sdk.coinId launcherSpend.coin := by
    rw [(launched.coherent mint).1.launcherId, minted.launcherCoin]
  have descends : launcherSpend.coin.parentCoinInfo = sdk.coinId parentSpend.coin := by
    rw [minted.launcherCoin, launcherLaw.coin, minted.parent]
  have reveals : Reveals sdk parentSpend inner.puzzle := by
    refine ⟨reveal, ?_⟩
    rw [standard.reveals signed, curry.standard, minted.parent, locked]
  have ordinary : IsOrdinary sdk inner.puzzle := by
    rw [standard.reveals signed]
    exact law.standard _
  rw [launcherId] at free ⊢
  exact ⟨ordinary_parent_not_attributed law descends reveals ordinary free,
    ordinary_parent_answered law descends reveals ordinary solved⟩

section Samples

open Reference

/-- The parent coin of the owned mint, revealed as a DID. -/
def forgedParent : CoinSpend := ⟨ownedCoin 1000, serialize didPuzzle, serialize (.atom [])⟩

def spendsOf : MerkleResult MerkleCoinSpend → List CoinSpend
  | .ok built => built.coinSpends
  | .error _ => []

def ownedMintSpends : List CoinSpend := spendsOf (ownedMint.run wallet)

def ownedMintCoins : List Coin := [⟨coinId (ownedCoin 1000), treeHash launcherPuzzle, 1⟩, ownedCoin 1000]

def ownedMintPuzzles : List Clvm := [launcherPuzzle, standardPuzzle ownerKey, didPuzzle]

theorem listed_ancestry {spends : List CoinSpend} {storeId : Bytes32} {spend : CoinSpend}
    (ancestor : Ancestry (listedSource spends) storeId spend) : spend ∈ spends := by
  cases ancestor with
  | launcher served => exact List.mem_of_find?_eq_some (Except.ok.inj served)
  | parent _ served => exact List.mem_of_find?_eq_some (Except.ok.inj served)

theorem forged_collisionFree {storeId : Bytes32} {spends : List CoinSpend}
    (among : spends ⊆ forgedParent :: ownedMintSpends) : CollisionFree wallet
      ({spend | Ancestry (listedSource spends) storeId spend} ∪ {spend | spend ∈ ownedMintSpends}) := by
  have shape : ∀ spend ∈ forgedParent :: ownedMintSpends, spend.coin ∈ ownedMintCoins ∧
      ∃ puzzle ∈ ownedMintPuzzles, spend.puzzleReveal = serialize puzzle := by decide +kernel
  have listed : ∀ spend ∈ {spend | Ancestry (listedSource spends) storeId spend} ∪ {spend | spend ∈ ownedMintSpends},
      spend ∈ forgedParent :: ownedMintSpends := by
    intro spend member
    rcases member with ancestor | own
    · exact among (listed_ancestry ancestor)
    · exact .tail _ own
  have ids : (ownedMintCoins.map coinId).Nodup := by decide +kernel
  have hashes : (ownedMintPuzzles.map treeHash).Nodup := by decide +kernel
  constructor
  · apply injOn_of_nodup ids
    intro coin covered
    obtain ⟨spend, member, rfl⟩ := covered
    exact (shape spend (listed spend member)).1
  · apply injOn_of_nodup hashes
    intro puzzle covered
    obtain ⟨spend, member, reveal⟩ := covered
    obtain ⟨_, puzzle', known, serialized⟩ := shape spend (listed spend member)
    rw [serialized, wallet_programToClvm, deserialize_serialize] at reveal
    cases reveal
    exact known

theorem owned_mint_has_no_did : ∃ built store, ownedMint.run wallet = .ok built ∧ built.child = some store ∧
    resolveOwnerDid wallet store.info.launcherId (listedSource built.coinSpends) = .ok none ∧
    ∀ didRef, resolveOwnerDid wallet store.info.launcherId (listedSource (forgedParent :: built.coinSpends)) ≠
      .ok (some didRef) := by
  have accepted : (ownedMint.run wallet).isOk = true := by decide +kernel
  have distinct : (ownedMintSpends.map fun spend => coinId spend.coin).Nodup := by decide +kernel
  obtain ⟨built, success⟩ := except_isOk_iff.mp accepted
  have spends : ownedMintSpends = built.coinSpends := congrArg spendsOf success
  obtain ⟨_, _, _, store, reported, _⟩ := MintCall.coherent mintLaw stageLaw success
  have locked : ownedMint.parentCoin.puzzleHash = wallet.standardCurryTreeHash ownerKey := rfl
  have answers : ∀ listed, listed ⊆ forgedParent :: ownedMintSpends →
      (∀ didRef, resolveOwnerDid wallet store.info.launcherId (listedSource listed) ≠ .ok (some didRef)) ∧
      ((∀ spend ∈ built.coinSpends, listedSource listed (coinId spend.coin) = .ok (some spend)) →
        resolveOwnerDid wallet store.info.launcherId (listedSource listed) = .ok none) := by
    intro listed among
    have free : CollisionFree wallet ({spend | Ancestry (listedSource listed) store.info.launcherId spend} ∪
        {spend | spend ∈ built.coinSpends}) := spends ▸ forged_collisionFree among
    exact minted_store_has_no_did curryLaw standardLaw launcherLaw mintLaw stageLaw ordinaryPuzzleLaw success reported
      rfl locked free
  rw [spends] at answers distinct
  have honest := (answers built.coinSpends (List.subset_cons_self _ _)).2
  have hostile := (answers (forgedParent :: built.coinSpends) (List.Subset.refl _)).1
  exact ⟨built, store, success, reported, honest fun spend member => listedSource_serves distinct member, hostile⟩

end Samples

end DigMerkle
