import DigMerkle.Proof.LaunchAtomicity
import DigMerkle.Proof.LauncherMemos
import DigMerkle.Proof.Mint

/-! Composing a launch in the caller's own context. What a launch returns and stages does not
depend on the context, so a caller's composition adds what the wrapper would have returned,
and the order of a batch does not matter. -/

namespace DigMerkle

open Library Fallible

variable {Allocator : Type} {sdk : Sdk Allocator}

theorem allocating_replays {action : Fallible DriverError Allocator α}
    (replays : Replays (fun _ => ([] : List CoinSpend)) action) :
    Replays SpendContext.coinSpends (allocating action) := by
  unfold allocating
  apply Replays.mapError
  apply Replays.onPart replays
  intro allocator ctx
  rfl

theorem driving_replays {action : Fallible DriverError (SpendContext Allocator) α}
    (replays : Replays SpendContext.coinSpends action) : Replays SpendContext.coinSpends (driving action) :=
  replays.mapError _

theorem MemosLaw.replays (memos : MemosLaw sdk) (hints : List Bytes32) :
    Replays (fun _ => ([] : List CoinSpend)) (sdk.memos hints) := by
  intro state state' value value' after after' success success'
  exact ⟨(memos.listed success).trans (memos.listed success').symm, [], rfl, rfl⟩

theorem HintLaw.replays (hinting : HintLaw sdk) (hint : Bytes32) :
    Replays (fun _ => ([] : List CoinSpend)) (sdk.hint hint) := by
  intro state state' value value' after after' success success'
  exact ⟨(hinting.hinted success).trans (hinting.hinted success').symm, [], rfl, rfl⟩

theorem overrideLauncherHint_replays (memos : MemosLaw sdk) (launcherCoin : Coin) (ownerPuzzleHash : Bytes32)
    (kind : StoreKind) (conditions : Conditions) :
    Replays SpendContext.coinSpends (overrideLauncherHint sdk launcherCoin ownerPuzzleHash kind conditions) := by
  induction conditions with
  | nil => exact replays_pure _ _
  | cons condition conditions ih =>
    refine .bind ?_ fun rewritten => .bind ih fun rest => replays_pure _ _
    cases condition with
    | createCoin created =>
      rw [overrideCondition]
      split
      · exact .bind (allocating_replays (memos.replays _)) fun memos => replays_pure _ _
      · exact replays_pure _ _
    | _ => exact replays_pure _ _

/-- A launch is the same launch, and stages the same spend, in every context that accepts it:
the one thing it reads there is a check. -/
theorem launch_replays (memos : MemosLaw sdk) (portable : PortableLaw sdk) (kind : StoreKind) (launcher : Launcher)
    (metadata : DigDataStoreMetadata) (ownerPuzzleHash : Bytes32) (set : List DelegatedPuzzle) :
    Replays SpendContext.coinSpends
      (mintDatastoreLaunchWithKind sdk kind launcher metadata ownerPuzzleHash set) :=
  .bind (replays_ofExcept _ _) fun _ => .bind (driving_replays (portable.mint _ _ _ _)) fun _ =>
    .bind (replays_ofExcept _ _) fun _ => .bind (overrideLauncherHint_replays memos _ _ _ _) fun _ =>
      .bind (assertLaunchReaches_keeps _ _).replays fun _ => replays_pure _ _

/-- Two batches of launches that settle, from any two contexts and in any order, which accept
the same calls return the same launches and stage the same spends, up to that order. -/
theorem batches_commute (memos : MemosLaw sdk) (portable : PortableLaw sdk) (staging : StagingLaw sdk)
    {calls calls' : List LaunchCall} {ctx ctx' : SpendContext Allocator}
    (settles : EachAttempt (LaunchCall.run sdk) (LaunchCall.Settles sdk) calls ctx)
    (settles' : EachAttempt (LaunchCall.run sdk) (LaunchCall.Settles sdk) calls' ctx')
    (same : (acceptedCalls (LaunchCall.run sdk) calls ctx).Perm (acceptedCalls (LaunchCall.run sdk) calls' ctx')) :
    (acceptedValues (LaunchCall.run sdk) calls ctx).Perm (acceptedValues (LaunchCall.run sdk) calls' ctx') ∧
    ∃ spends spends', (drainCoinSpends (attemptAll (LaunchCall.run sdk) calls ctx).2).1 = .ok (ctx.coinSpends ++ spends) ∧
      (drainCoinSpends (attemptAll (LaunchCall.run sdk) calls' ctx').2).1 = .ok (ctx'.coinSpends ++ spends') ∧
      spends.Perm spends' := by
  have replays : ∀ call, Replays SpendContext.coinSpends (LaunchCall.run sdk call) :=
    fun call => launch_replays memos portable _ _ _ _ _
  have atomic := (eachAttempt_congr (LaunchCall.atomicAt_iff staging)).mpr settles
  have atomic' := (eachAttempt_congr (LaunchCall.atomicAt_iff staging)).mpr settles'
  obtain ⟨values, spends, spends', grown, grown', permuted⟩ := attemptAll_perm replays atomic atomic' same
  exact ⟨values, spends, spends', congrArg Except.ok grown, congrArg Except.ok grown', permuted⟩

section Samples

open Reference

def secondLaunch : LaunchCall := ⟨.didProfile, wallet.launcherNew (hash32 8) 3, Reference.metadata, hash32 9, []⟩

theorem directCall_settles (kind : StoreKind) (parentCoinId : Bytes32) (amount : UInt64)
    (metadata : DigDataStoreMetadata) (ownerPuzzleHash : Bytes32) (set : List DelegatedPuzzle)
    (ctx : SpendContext Unit) :
    LaunchCall.Settles wallet ⟨kind, wallet.launcherNew parentCoinId amount, metadata, ownerPuzzleHash, set⟩ ctx := by
  refine .inr (.inr (.inr ⟨?_, .inl ?_⟩))
  · generalize List.countP _ _ = count
    exact allocatesMemos_wallet _ count _
  · simp [wallet, base, createsCoin, Condition.created?]

theorem swapped_batches_commute : ∃ spends spends',
    (attemptAll (LaunchCall.run wallet) [directLaunch, secondLaunch] wallet.newContext).2.coinSpends = spends ∧
    (attemptAll (LaunchCall.run wallet) [secondLaunch, directLaunch] ⟨(), [intermediateSpend]⟩).2.coinSpends =
      intermediateSpend :: spends' ∧ spends.Perm spends' := by
  have forward : (directLaunch.run wallet wallet.newContext).1.isOk = true ∧
      (secondLaunch.run wallet (directLaunch.run wallet wallet.newContext).2).1.isOk = true := by decide +kernel
  have backward : (secondLaunch.run wallet ⟨(), [intermediateSpend]⟩).1.isOk = true ∧
      (directLaunch.run wallet (secondLaunch.run wallet ⟨(), [intermediateSpend]⟩).2).1.isOk = true := by
    decide +kernel
  have accepts : ∀ first second ctx, (LaunchCall.run wallet first ctx).1.isOk = true ∧
      (LaunchCall.run wallet second (LaunchCall.run wallet first ctx).2).1.isOk = true →
      acceptedCalls (LaunchCall.run wallet) [first, second] ctx = [first, second] := by
    intro first second ctx accepted
    obtain ⟨launch, success⟩ := except_isOk_iff.mp accepted.1
    obtain ⟨launch', success'⟩ := except_isOk_iff.mp accepted.2
    simp [acceptedCalls, success, success']
  have same : (acceptedCalls (LaunchCall.run wallet) [directLaunch, secondLaunch] wallet.newContext).Perm
      (acceptedCalls (LaunchCall.run wallet) [secondLaunch, directLaunch] ⟨(), [intermediateSpend]⟩) := by
    rw [accepts _ _ _ forward, accepts _ _ _ backward]
    exact .swap _ _ _
  have first : ∀ ctx, directLaunch.Settles wallet ctx := directCall_settles _ _ _ _ _ _
  have second : ∀ ctx, secondLaunch.Settles wallet ctx := directCall_settles _ _ _ _ _ _
  have settles : EachAttempt (LaunchCall.run wallet) (LaunchCall.Settles wallet) [directLaunch, secondLaunch]
      wallet.newContext := ⟨first _, second _, trivial⟩
  have settles' : EachAttempt (LaunchCall.run wallet) (LaunchCall.Settles wallet) [secondLaunch, directLaunch]
      ⟨(), [intermediateSpend]⟩ := ⟨second _, first _, trivial⟩
  obtain ⟨_, spends, spends', drained, drained', permuted⟩ := batches_commute memosLaw portableLaw
    mintLaw.toStagingLaw settles settles' same
  exact ⟨spends, spends', Except.ok.inj drained, Except.ok.inj drained', permuted⟩

end Samples

/-- The arguments of one mint. -/
structure MintCall where
  kind : StoreKind
  parentCoin : Coin
  owner : Owner
  metadata : DigDataStoreMetadata
  ownerPuzzleHash : Bytes32
  delegatedPuzzles : List DelegatedPuzzle
  fee : UInt64

def MintCall.run (sdk : Sdk Allocator) (call : MintCall) : MerkleResult MerkleCoinSpend :=
  mintDatastoreWithKind sdk call.kind call.parentCoin call.owner call.metadata call.ownerPuzzleHash
    call.delegatedPuzzles call.fee

/-- A direct launch with the parent's spend added by the caller, who has yet to drain. -/
def MintCall.compose (sdk : Sdk Allocator) (call : MintCall) :
    InContext Allocator (Datastore DigDataStoreMetadata) := do
  let launch ← mintDatastoreLaunchWithKind sdk call.kind (sdk.launcherNew (sdk.coinId call.parentCoin) 1)
    call.metadata call.ownerPuzzleHash call.delegatedPuzzles
  let reserved ← .ofExcept (reservedAmount call.fee)
  let conditions ← ownerConditions sdk call.parentCoin call.ownerPuzzleHash reserved launch.parentConditions
  let ownerSpend ← innerSpend sdk call.owner conditions
  driving (sdk.contextSpend call.parentCoin ownerSpend)
  return launch.datastore

theorem ownerConditions_replays (hinting : HintLaw sdk) (parentCoin : Coin) (ownerPuzzleHash : Bytes32)
    (reserved : UInt64) (conditions : Conditions) :
    Replays SpendContext.coinSpends (ownerConditions sdk parentCoin ownerPuzzleHash reserved conditions) := by
  unfold ownerConditions
  split
  · exact .bind (allocating_replays (hinting.replays _)) fun changeHint => replays_pure _ _
  · exact replays_pure _ _

theorem innerSpend_replays (portable : PortableLaw sdk) (owner : Owner) (conditions : Conditions) :
    Replays SpendContext.coinSpends (innerSpend sdk owner conditions) := by
  cases owner with
  | standard publicKey => exact allocating_replays (portable.standard _ _)
  | custom spend => exact replays_pure _ _

theorem MintCall.compose_replays (memos : MemosLaw sdk) (hinting : HintLaw sdk) (portable : PortableLaw sdk)
    (call : MintCall) : Replays SpendContext.coinSpends (call.compose sdk) :=
  .bind (launch_replays memos portable _ _ _ _ _) fun _ => .bind (replays_ofExcept _ _) fun _ =>
    .bind (ownerConditions_replays hinting _ _ _ _) fun _ =>
      .bind (innerSpend_replays portable _ _) fun _ =>
        .bind (driving_replays (portable.stage _ _)) fun _ => replays_pure _ _

theorem MintCall.compose_of_run {call : MintCall} {built : MerkleCoinSpend} (success : call.run sdk = .ok built) :
    ∃ child after, call.compose sdk sdk.newContext = (.ok child, after) ∧ built = ⟨after.coinSpends, some child⟩ := by
  obtain ⟨kind, parentCoin, owner, metadata, ownerPuzzleHash, set, fee⟩ := call
  cases owner with
  | custom spend => cases success
  | standard publicKey =>
    obtain ⟨after, inContext⟩ : ∃ after, mintInContext sdk kind parentCoin (.standard publicKey) metadata
        ownerPuzzleHash set fee sdk.newContext = (.ok built, after) := exists_after success
    simp only [mintInContext, bind_eq_ok, pure_eq_ok] at inContext
    obtain ⟨launch, launched, launches, reserved, funded, reserves, conditions, owned, owns, inner, signed, signs,
      _, final, stages, spends, _, drained, rfl, _⟩ := inContext
    cases drained
    refine ⟨launch.datastore, final, ?_, rfl⟩
    simp only [MintCall.compose, bind_eq_ok, pure_eq_ok]
    exact ⟨launch, launched, launches, reserved, funded, reserves, conditions, owned, owns, inner, signed, signs,
      _, final, stages, rfl, rfl⟩

/-- Whatever the caller's context already holds, composing a launch with the parent's spend
reports the wrapper's store, and adds to the context exactly the wrapper's spends. -/
theorem composed_launch_agrees (memos : MemosLaw sdk) (hinting : HintLaw sdk) (portable : PortableLaw sdk)
    {call : MintCall} {ctx after : SpendContext Allocator} {child : Datastore DigDataStoreMetadata}
    {built : MerkleCoinSpend} (composed : call.compose sdk ctx = (.ok child, after))
    (wrapped : call.run sdk = .ok built) :
    built.child = some child ∧ after.coinSpends = ctx.coinSpends ++ built.coinSpends := by
  obtain ⟨child', final, alone, rfl⟩ := MintCall.compose_of_run wrapped
  obtain ⟨rfl, entries, grown, grown'⟩ := call.compose_replays memos hinting portable composed alone
  exact ⟨rfl, by rw [grown, grown']; rfl⟩

section Samples

open Reference

def ownedMint : MintCall :=
  ⟨.file, ownedCoin 1000, .standard ownerKey, Reference.metadata, ownerHash, [], 10⟩

theorem owned_mint_composes : ∃ child after built, ownedMint.compose wallet ⟨(), [intermediateSpend]⟩ = (.ok child, after) ∧
    ownedMint.run wallet = .ok built ∧ built.child = some child ∧
    after.coinSpends = intermediateSpend :: built.coinSpends := by
  have accepted : (ownedMint.compose wallet ⟨(), [intermediateSpend]⟩).1.isOk = true ∧
      (ownedMint.run wallet).isOk = true := by decide +kernel
  obtain ⟨child, success⟩ := except_isOk_iff.mp accepted.1
  obtain ⟨after, composed⟩ := exists_after success
  obtain ⟨built, wrapped⟩ := except_isOk_iff.mp accepted.2
  obtain ⟨reported, grown⟩ := composed_launch_agrees memosLaw hintLaw portableLaw composed wrapped
  exact ⟨child, after, built, composed, wrapped, reported, grown⟩

end Samples

end DigMerkle
