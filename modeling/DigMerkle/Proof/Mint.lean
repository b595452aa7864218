import DigMerkle.Proof.Launch

namespace DigMerkle

open Library

variable {Allocator : Type} {sdk : Sdk Allocator}

theorem reservedAmount_eq_ok {fee reserved : UInt64} :
    reservedAmount fee = .ok reserved ↔ fee.toNat + 1 < 2 ^ 64 ∧ reserved = fee + 1 := by
  have sum : fee.toNat + (1 : UInt64).toNat = fee.toNat + 1 := rfl
  unfold reservedAmount checkedAdd
  rw [sum]
  by_cases fits : fee.toNat + 1 < 2 ^ 64
  · rw [if_pos fits]
    dsimp only
    rw [Except.ok.injEq]
    exact ⟨fun same => ⟨fits, same.symm⟩, fun reserve => reserve.2.symm⟩
  · rw [if_neg fits]
    exact iff_of_false (fun refused => by cases refused) fun reserve => fits reserve.1

/-- The condition that returns what a parent coin is worth above `fee + 1`. -/
def changeOf (ownerPuzzleHash : Bytes32) (amount reserved : UInt64) (memos : Memos) : Conditions :=
  if amount > reserved then [.createCoin ⟨ownerPuzzleHash, amount - reserved, memos⟩] else []

theorem ownerConditions_eq_ok {parentCoin : Coin} {ownerPuzzleHash : Bytes32} {reserved : UInt64}
    {launchConditions conditions : Conditions} {ctx after : SpendContext Allocator}
    (success : ownerConditions sdk parentCoin ownerPuzzleHash reserved launchConditions ctx =
      (.ok conditions, after)) :
    (∃ memos, conditions = launchConditions ++ changeOf ownerPuzzleHash parentCoin.amount reserved memos) ∧
      after.coinSpends = ctx.coinSpends := by
  unfold ownerConditions at success
  split at success
  · rename_i surplus
    simp only [Fallible.bind_eq_ok, allocating_eq_ok, Fallible.pure_eq_ok] at success
    obtain ⟨memos, _, ⟨_, _, rfl⟩, rfl, rfl⟩ := success
    exact ⟨⟨memos, by rw [changeOf, if_pos surplus]⟩, rfl⟩
  · rename_i covered
    cases success
    exact ⟨⟨.none, by rw [changeOf, if_neg covered, List.append_nil]⟩, rfl⟩

/-- Everything a successful mint did: a direct launch, and the parent coin spent
by the key to emit its conditions and the change. -/
structure Minted (sdk : Sdk Allocator) (kind : StoreKind) (parentCoin : Coin) (publicKey : PublicKey)
    (metadata : DigDataStoreMetadata) (ownerPuzzleHash : Bytes32) (set : List DelegatedPuzzle)
    (fee : UInt64) (launch : DatastoreLaunch) (launcherSpend parentSpend : CoinSpend)
    (conditions : Conditions) : Prop where
  launched : ∃ after, Launched sdk kind (sdk.launcherNew (sdk.coinId parentCoin) 1) metadata ownerPuzzleHash
    set sdk.newContext launch after ∧ after.coinSpends = [launcherSpend]
  launcherCoin : launcherSpend.coin = (sdk.launcherNew (sdk.coinId parentCoin) 1).coin
  fits : fee.toNat + 1 < 2 ^ 64
  emits : ∃ memos, conditions =
    launch.parentConditions ++ changeOf ownerPuzzleHash parentCoin.amount (fee + 1) memos
  parent : parentSpend.coin = parentCoin
  signed : ∃ inner before after,
    sdk.standardSpendWithConditions publicKey conditions before = (.ok inner, after) ∧
    sdk.programToClvm parentSpend.puzzleReveal = .ok inner.puzzle ∧
    sdk.programToClvm parentSpend.solution = .ok inner.solution

theorem mintDatastoreWithKind_eq_ok (staging : StagingLaw sdk) (stage : StageLaw sdk) {kind : StoreKind}
    {parentCoin : Coin} {owner : Owner} {metadata : DigDataStoreMetadata} {ownerPuzzleHash : Bytes32}
    {set : List DelegatedPuzzle} {fee : UInt64} {built : MerkleCoinSpend}
    (success : mintDatastoreWithKind sdk kind parentCoin owner metadata ownerPuzzleHash set fee = .ok built) :
    ∃ publicKey launch launcherSpend parentSpend conditions, owner = .standard publicKey ∧
      built = ⟨[launcherSpend, parentSpend], some launch.datastore⟩ ∧
      Minted sdk kind parentCoin publicKey metadata ownerPuzzleHash set fee launch launcherSpend parentSpend
        conditions := by
  cases owner with
  | custom spend => cases success
  | standard publicKey =>
    obtain ⟨after, inContext⟩ : ∃ after, mintInContext sdk kind parentCoin (.standard publicKey) metadata
        ownerPuzzleHash set fee sdk.newContext = (.ok built, after) := Fallible.exists_after success
    simp only [mintInContext, innerSpend, Fallible.bind_eq_ok, allocating_eq_ok, driving_eq_ok,
      Fallible.ofExcept_eq_ok, Fallible.pure_eq_ok, reservedAmount_eq_ok] at inContext
    obtain ⟨launch, launchedCtx, launched, _, _, ⟨⟨fits, rfl⟩, rfl⟩, conditions, _, owned, inner, _,
      ⟨_, signed, rfl⟩, _, final, spent, coinSpends, _, drained, rfl, _⟩ := inContext
    cases drained
    have inverted := Launched.of_ok launched
    obtain ⟨minted, staged, mint, _, _, kept⟩ := inverted.minted
    obtain ⟨launcherSpend, appended, launcherCoin⟩ := staging.staged mint
    have only : launchedCtx.coinSpends = [launcherSpend] := kept.trans appended
    obtain ⟨shape, unstaged⟩ := ownerConditions_eq_ok owned
    obtain ⟨parentSpend, both, coin, reveal, solution⟩ := stage.staged spent
    have spends : final.coinSpends = [launcherSpend, parentSpend] := by
      rw [both, unstaged, only]
      rfl
    rw [spends]
    exact ⟨publicKey, launch, launcherSpend, parentSpend, conditions, rfl, rfl,
      ⟨⟨launchedCtx, inverted, only⟩, launcherCoin, fits, shape, coin, inner, _, _, signed, reveal, solution⟩⟩

/-- The reveal and the solution of a spend run to these conditions. -/
def SpendEmits (sdk : Sdk Allocator) (spend : CoinSpend) (conditions : Conditions) : Prop :=
  ∃ puzzle solution, sdk.programToClvm spend.puzzleReveal = .ok puzzle ∧
    sdk.programToClvm spend.solution = .ok solution ∧ sdk.emitted puzzle solution = .ok conditions

theorem SpendEmits.unique {spend : CoinSpend} {conditions other : Conditions}
    (emits : SpendEmits sdk spend conditions) (emits' : SpendEmits sdk spend other) : conditions = other := by
  obtain ⟨puzzle, solution, reveal, solved, emitted⟩ := emits
  obtain ⟨puzzle', solution', reveal', solved', emitted'⟩ := emits'
  cases reveal.symm.trans reveal'
  cases solved.symm.trans solved'
  exact Except.ok.inj (emitted.symm.trans emitted')

/-- What created coins are worth together. -/
def totalAmount : List CreateCoin → Nat
  | [] => 0
  | created :: rest => created.amount.toNat + totalAmount rest

/-- The parent's spend creates the launcher and the change, and the parent coin is
worth the singleton, the change and the fee. -/
def MintConserves (sdk : Sdk Allocator) (parentCoin : Coin) (fee : UInt64) (built : MerkleCoinSpend) : Prop :=
  ∃ launcherSpend parentSpend conditions launcher change child,
    built.coinSpends = [launcherSpend, parentSpend] ∧ built.child = some child ∧
    parentSpend.coin = parentCoin ∧ SpendEmits sdk parentSpend conditions ∧
    conditions.filterMap Condition.created? = launcher :: change ∧
    launcherSpend.coin = ⟨sdk.coinId parentCoin, launcher.puzzleHash, launcher.amount⟩ ∧
    child.coin.parentCoinInfo = sdk.coinId launcherSpend.coin ∧ child.coin.amount = 1 ∧
    parentCoin.amount.toNat = child.coin.amount.toNat + totalAmount change + fee.toNat

section Value

variable {kind : StoreKind} {parentCoin : Coin} {publicKey : PublicKey} {metadata : DigDataStoreMetadata}
  {ownerPuzzleHash : Bytes32} {set : List DelegatedPuzzle} {fee : UInt64} {launch : DatastoreLaunch}
  {launcherSpend parentSpend : CoinSpend} {conditions : Conditions}

theorem rewritten_direct {launcherCoin : Coin} {created : CreateCoin} {announcementId : Bytes32}
    {rewritten : Conditions} (each : List.Forall₂ (Rewritten sdk launcherCoin ownerPuzzleHash kind)
      [.createCoin created, .assertCoinAnnouncement announcementId] rewritten) :
    ∃ memos, rewritten = [.createCoin { created with memos }, .assertCoinAnnouncement announcementId] := by
  cases each with
  | cons first rest =>
    cases rest with
    | cons second rest =>
      cases rest
      cases second
      cases first with
      | stamped _ _ => exact ⟨_, rfl⟩
      | kept _ => exact ⟨created.memos, rfl⟩

theorem Minted.parentConditions (launcherLaw : LauncherLaw sdk) (staging : StagingLaw sdk)
    (minted : Minted sdk kind parentCoin publicKey metadata ownerPuzzleHash set fee launch launcherSpend
      parentSpend conditions) :
    ∃ memos announcementId, launch.parentConditions =
      [.createCoin ⟨sdk.singletonLauncherHash, 1, memos⟩, .assertCoinAnnouncement announcementId] := by
  obtain ⟨after, launched, _⟩ := minted.launched
  obtain ⟨before, staged, mint, each, _⟩ := launched.minted
  obtain ⟨announcementId, emitted⟩ := staging.conditions mint
  obtain ⟨memos, base⟩ := launcherLaw.conditions (sdk.coinId parentCoin) 1
  have shape : before = [.createCoin ⟨sdk.singletonLauncherHash, 1, memos⟩,
      .assertCoinAnnouncement announcementId] := by
    rw [show before = _ from emitted, base]
    rfl
  subst shape
  obtain ⟨stamped, same⟩ := rewritten_direct each
  exact ⟨stamped, announcementId, same⟩

/-- What the parent's spend creates: the launcher, then the change. -/
theorem Minted.created (standard : StandardLaw sdk) (launcherLaw : LauncherLaw sdk) (staging : StagingLaw sdk)
    (minted : Minted sdk kind parentCoin publicKey metadata ownerPuzzleHash set fee launch launcherSpend
      parentSpend conditions) :
    ∃ launcherMemos changeMemos emitted, SpendEmits sdk parentSpend emitted ∧
      emitted.filterMap Condition.created? = ⟨sdk.singletonLauncherHash, 1, launcherMemos⟩ ::
        (changeOf ownerPuzzleHash parentCoin.amount (fee + 1) changeMemos).filterMap Condition.created? := by
  obtain ⟨launcherMemos, announcementId, launching⟩ := minted.parentConditions launcherLaw staging
  obtain ⟨changeMemos, shape⟩ := minted.emits
  obtain ⟨inner, _, _, signed, reveal, solution⟩ := minted.signed
  rw [launching] at shape
  have named : ∀ condition, .other condition ∉ conditions := by
    intro condition member
    rw [shape] at member
    unfold changeOf at member
    split at member <;> simp at member
  refine ⟨launcherMemos, changeMemos, _, ⟨_, _, reveal, solution, standard.emits signed named⟩, ?_⟩
  simp [shape, List.filterMap_cons, Condition.created?]

theorem changeOf_total (ownerPuzzleHash : Bytes32) (amount : UInt64) (memos : Memos) (fits : fee.toNat + 1 < 2 ^ 64) :
    totalAmount ((changeOf ownerPuzzleHash amount (fee + 1) memos).filterMap Condition.created?) =
      amount.toNat - (fee.toNat + 1) := by
  have reserved : (fee + 1).toNat = fee.toNat + 1 := by
    rw [UInt64.toNat_add]
    exact Nat.mod_eq_of_lt fits
  unfold changeOf
  split
  · rename_i surplus
    have bound : fee + 1 ≤ amount := UInt64.le_of_lt surplus
    simp [totalAmount, Condition.created?, UInt64.toNat_sub_of_le _ _ bound, reserved]
  · rename_i covered
    have short : amount.toNat ≤ fee.toNat + 1 := by
      rw [← reserved]
      exact UInt64.le_iff_toNat_le.mp (UInt64.not_lt.mp covered)
    simp [totalAmount]
    omega

/-- A mint pays exactly the fee when the parent coin covers singleton and fee. -/
theorem Minted.conserves_iff (standard : StandardLaw sdk) (launcherLaw : LauncherLaw sdk) (mint : MintLaw sdk)
    (minted : Minted sdk kind parentCoin publicKey metadata ownerPuzzleHash set fee launch launcherSpend
      parentSpend conditions) :
    MintConserves sdk parentCoin fee ⟨[launcherSpend, parentSpend], some launch.datastore⟩ ↔
      fee.toNat + 1 ≤ parentCoin.amount.toNat := by
  obtain ⟨launcherMemos, changeMemos, emitted, emits, created⟩ :=
    minted.created standard launcherLaw mint.toStagingLaw
  obtain ⟨after, launched, _⟩ := minted.launched
  obtain ⟨_, _, mints, _⟩ := launched.minted
  obtain ⟨inner, _, store, _⟩ := mint.store mints
  have launcherCoin := minted.launcherCoin.trans (launcherLaw.coin (sdk.coinId parentCoin) 1)
  have child : launch.datastore.coin.parentCoinInfo = sdk.coinId launcherSpend.coin ∧
      launch.datastore.coin.amount = 1 := by
    rw [show launch.datastore = _ from store, minted.launcherCoin]
    exact ⟨rfl, launcherLaw.singletonAmount _ _⟩
  have change := changeOf_total ownerPuzzleHash parentCoin.amount changeMemos minted.fits
  constructor
  · intro conserves
    rcases conserves with ⟨_, _, emitted', _, change', _, spends, childSame, _, emits', created', _, _, one, worth⟩
    cases spends
    cases childSame
    have sameEmitted : emitted' = emitted := emits'.unique emits
    rw [sameEmitted, created] at created'
    obtain ⟨_, sameChange⟩ := List.cons.inj created'
    rw [← sameChange, change, one] at worth
    change _ = 1 + _ + _ at worth
    omega
  · intro covered
    refine ⟨launcherSpend, parentSpend, emitted, _, _, launch.datastore, rfl, rfl, minted.parent, emits, created,
      launcherCoin, child.1, child.2, ?_⟩
    rw [change, child.2]
    change _ = 1 + _ + _
    omega

end Value

/-- A successful mint pays exactly the fee when the parent coin is worth the
singleton and the fee; a poorer parent is not refused. -/
theorem mint_conserves_iff (standard : StandardLaw sdk) (launcherLaw : LauncherLaw sdk) (mint : MintLaw sdk)
    (stage : StageLaw sdk) {kind : StoreKind} {parentCoin : Coin} {owner : Owner}
    {metadata : DigDataStoreMetadata} {ownerPuzzleHash : Bytes32} {set : List DelegatedPuzzle} {fee : UInt64}
    {built : MerkleCoinSpend}
    (success : mintDatastoreWithKind sdk kind parentCoin owner metadata ownerPuzzleHash set fee = .ok built) :
    fee.toNat + 1 < 2 ^ 64 ∧
      (MintConserves sdk parentCoin fee built ↔ fee.toNat + 1 ≤ parentCoin.amount.toNat) := by
  obtain ⟨publicKey, launch, launcherSpend, parentSpend, conditions, rfl, rfl, minted⟩ :=
    mintDatastoreWithKind_eq_ok mint.toStagingLaw stage success
  exact ⟨minted.fits, minted.conserves_iff standard launcherLaw mint⟩

section Samples

open Reference

/-- A parent coin locked with the owner's puzzle. -/
def ownedCoin (amount : UInt64) : Coin := ⟨hash32 1, ownerHash, amount⟩

def mintFrom (amount fee : UInt64) : MerkleResult MerkleCoinSpend :=
  mintDatastoreWithKind wallet .file (ownedCoin amount) (.standard ownerKey) Reference.metadata ownerHash [] fee

theorem funded_mint_conserves : ∃ built, MintConserves wallet (ownedCoin 1000) 10 built := by
  have accepted : (mintFrom 1000 10).isOk = true := by decide +kernel
  obtain ⟨built, minted⟩ := except_isOk_iff.mp accepted
  unfold mintFrom at minted
  have conserves := mint_conserves_iff standardLaw launcherLaw mintLaw stageLaw minted
  exact ⟨built, conserves.2.mpr (by decide)⟩

/-- A parent coin worth one mojo is not refused, and pays none of a fee of ten. -/
theorem underfunded_mint_accepted : ∃ built, mintFrom 1 10 = .ok built ∧
    ¬ MintConserves wallet (ownedCoin 1) 10 built := by
  have accepted : (mintFrom 1 10).isOk = true := by decide +kernel
  obtain ⟨built, success⟩ := except_isOk_iff.mp accepted
  have inverted := success
  unfold mintFrom at inverted
  obtain ⟨_, _, _, _, _, _, rfl, minted⟩ := mintDatastoreWithKind_eq_ok mintLaw.toStagingLaw stageLaw inverted
  refine ⟨_, success, fun conserves => ?_⟩
  exact absurd ((minted.conserves_iff standardLaw launcherLaw mintLaw).mp conserves) (by decide)

end Samples

end DigMerkle
