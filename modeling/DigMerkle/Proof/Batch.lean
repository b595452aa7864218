import DigMerkle.Proof.LaunchAtomicity
import DigMerkle.Proof.ReadBack

namespace DigMerkle

open Library Fallible

variable {Allocator : Type} {sdk : Sdk Allocator}

/-- A spend reads as the store that it hydrates to. -/
def ReadsAs (sdk : Sdk Allocator) (spend : CoinSpend) (store : Datastore DigDataStoreMetadata) : Prop :=
  hydrate sdk spend = .ok store

/-- The spend that the SDK's mint stages reads as the store it reports, whatever the launch
makes of it afterwards. -/
theorem minted_reads (mint : MintLaw sdk) (memo : MemoLaw sdk) (fromSpend : FromSpendLaw sdk) {launcher : Launcher}
    {metadata : DigDataStoreMetadata} {ownerPuzzleHash : Bytes32} {set : List DelegatedPuzzle}
    {ctx staged : SpendContext Allocator} {minted : Conditions × Datastore DigDataStoreMetadata}
    (legal : launcher.coin.puzzleHash = sdk.singletonLauncherHash)
    (success : sdk.launcherMintDatastore launcher metadata ownerPuzzleHash set ctx = (.ok minted, staged)) :
    ∃ spend, staged.coinSpends = ctx.coinSpends ++ [spend] ∧ ReadsAs sdk spend minted.2 := by
  obtain ⟨spend, appended, coin⟩ := mint.staged success
  obtain ⟨inner, authority, store, shown⟩ := mint.store success
  obtain ⟨⟨puzzle, reveal, hash⟩, solution, solved, opened⟩ := shown spend appended
  have launcherHash : spend.coin.puzzleHash = sdk.singletonLauncherHash := by rw [coin, legal]
  refine ⟨spend, appended, hydrate_eq_ok.mpr ⟨⟨puzzle, reveal, hash.trans launcherHash.symm⟩, ?_⟩⟩
  rw [fromSpend.launched launcherHash solved opened, coin, launchedStore_eq memo authority, store]

theorem finishLaunch_store {kind : StoreKind} {launcher : Launcher} {ownerPuzzleHash : Bytes32}
    {minted : Conditions × Datastore DigDataStoreMetadata} {staged after : SpendContext Allocator}
    {launch : DatastoreLaunch}
    (success : finishLaunch sdk kind launcher ownerPuzzleHash minted staged = (.ok launch, after)) :
    launch.datastore = minted.2 := by
  simp only [finishLaunch, bind_eq_ok, ofExcept_eq_ok, pure_eq_ok] at success
  obtain ⟨_, _, _, _, _, _, _, _, _, rfl, _⟩ := success
  rfl

/-- One launch of a batch: accepted with its store, refused before the mint, or refused after
it and stranded. -/
theorem LaunchCall.logs (mint : MintLaw sdk) (memo : MemoLaw sdk) (fromSpend : FromSpendLaw sdk) (call : LaunchCall)
    (ctx : SpendContext Allocator) :
    Logs SpendContext.coinSpends (ReadsAs sdk) DatastoreLaunch.datastore ctx (call.run sdk ctx) := by
  rw [LaunchCall.run, mintDatastoreLaunchWithKind_eq]
  cases legal : assertLauncherIsLegal sdk call.launcher.coin call.launcher.singletonAmount with
  | error error => exact .clean rfl
  | ok =>
    change Logs _ _ _ _ ((driving (call.mint sdk) >>= _) ctx)
    cases success : call.mint sdk ctx with
    | mk outcome staged =>
      cases outcome with
      | error error =>
        have driven : driving (call.mint sdk) ctx = (.error (.driver error), staged) := by
          simp [driving, mapError, success, Except.mapError]
        rw [bind_apply, driven]
        exact .clean (mint.failed success)
      | ok minted =>
        obtain ⟨spend, appended, reads⟩ := minted_reads mint memo fromSpend
          (assertLauncherIsLegal_eq_ok.mp legal).1 success
        rw [bind_of_ok _ (driving_eq_ok.mpr success)]
        have kept := finishLaunch_keeps sdk call.kind call.launcher call.ownerPuzzleHash minted staged
        cases finish : finishLaunch sdk call.kind call.launcher call.ownerPuzzleHash minted staged with
        | mk result after =>
          rw [finish] at kept
          have added : after.coinSpends = ctx.coinSpends ++ [spend] := kept.trans appended
          cases result with
          | error error => exact .stranded spend minted.2 added reads
          | ok launch => exact .stored spend added (by rw [finishLaunch_store finish]; exact reads)

/-- Over any batch of caught launches, every spend that the batch adds to the drained ones
hydrates; the accepted launches' stores are among what they hydrate to, in order; and there
is nothing else to hydrate exactly when each launch settles. -/
theorem batch_reads_back_iff (mint : MintLaw sdk) (memo : MemoLaw sdk) (fromSpend : FromSpendLaw sdk)
    (ctx : SpendContext Allocator) (calls : List LaunchCall) :
    ∃ spends stores,
      (drainCoinSpends (attemptAll (LaunchCall.run sdk) calls ctx).2).1 = .ok (ctx.coinSpends ++ spends) ∧
      List.Forall₂ (ReadsAs sdk) spends stores ∧
      ((acceptedValues (LaunchCall.run sdk) calls ctx).map DatastoreLaunch.datastore).Sublist stores ∧
      ((acceptedValues (LaunchCall.run sdk) calls ctx).map DatastoreLaunch.datastore = stores ↔
        EachAttempt (LaunchCall.run sdk) (LaunchCall.Settles sdk) calls ctx) := by
  obtain ⟨spends, stores, grown, read, among, all⟩ := attemptAll_reads (LaunchCall.logs mint memo fromSpend) calls ctx
  refine ⟨spends, stores, congrArg Except.ok grown, read, among, all.trans ?_⟩
  exact eachAttempt_congr (LaunchCall.atomicAt_iff mint.toStagingLaw)

section Samples

open Reference

theorem strandedLaunch_unsettled : ¬ strandedLaunch.Settles wallet wallet.newContext := by
  intro settles
  rcases settles with launcher | even | ⟨error, refused⟩ | ⟨_, direct | ⟨intermediate, found, _⟩⟩
  · exact launcher rfl
  · exact absurd even (by decide)
  · cases refused
  · cases direct
  · cases found

theorem stranded_batch_read_back : ∃ spends stores,
    (drainCoinSpends (attemptAll (LaunchCall.run wallet) [strandedLaunch, directLaunch] wallet.newContext).2).1 =
      .ok spends ∧ List.Forall₂ (ReadsAs wallet) spends stores ∧
    (acceptedValues (LaunchCall.run wallet) [strandedLaunch, directLaunch] wallet.newContext).map
      DatastoreLaunch.datastore ≠ stores := by
  obtain ⟨spends, stores, drained, read, _, all⟩ :=
    batch_reads_back_iff mintLaw memoLaw fromSpendLaw wallet.newContext [strandedLaunch, directLaunch]
  exact ⟨spends, stores, drained, read, fun same => strandedLaunch_unsettled (all.mp same).1⟩

end Samples

end DigMerkle
