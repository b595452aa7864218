import DigMerkle.Proof.Launch
import Mathlib.Data.List.Nodup
import Mathlib.Data.Set.Function

/-! The owner-discovery memos of a launch. The rewrite identifies the launcher by
its full coin id, but it takes the launcher's own parent as the parent of every
created coin, and not the coin that emits the conditions. -/

namespace DigMerkle

open Library

variable {Allocator : Type} {sdk : Sdk Allocator}

/-- The coin that `parent` creates by a condition. -/
def createdBy (sdk : Sdk Allocator) (parent : Coin) (created : CreateCoin) : Coin :=
  ⟨sdk.coinId parent, created.puzzleHash, created.amount⟩

/-- No coin other than the launcher gets different memos. -/
def ForeignMemosKept (sdk : Sdk Allocator) (parent launcherCoin : Coin) (before after : Conditions) : Prop :=
  List.Forall₂ (fun original rewritten => ∀ created, rewritten = .createCoin created →
    createdBy sdk parent created ≠ launcherCoin → original = rewritten) before after

/-- The flag says whether the parent creates the launcher itself, and if it does,
the launcher's creation carries the two memos. -/
structure FlagTruthful (sdk : Sdk Allocator) (parent launcherCoin : Coin) (ownerPuzzleHash : Bytes32)
    (kind : StoreKind) (launch : DatastoreLaunch) : Prop where
  flag : launch.launcherMemosWritten = true ↔ ∃ created, .createCoin created ∈ launch.parentConditions ∧
    sdk.coinId (createdBy sdk parent created) = sdk.coinId launcherCoin
  memos : ∀ created, .createCoin created ∈ launch.parentConditions →
    sdk.coinId (createdBy sdk parent created) = sdk.coinId launcherCoin →
    created.memos = memosOf ((launcherMemos sdk ownerPuzzleHash kind).map BytesImpl.bytes)

/-- The coins whose ids the rewrite and the claims about it compare: the launcher,
and each created coin under the emitting parent and under the launcher's parent. -/
def comparedCoins (sdk : Sdk Allocator) (parent : Coin) (launcher : Launcher) : Set Coin :=
  {coin | coin = launcher.coin ∨ ∃ created, .createCoin created ∈ launcher.conditions ∧
    (coin = createdBy sdk parent created ∨
      coin = ⟨launcher.coin.parentCoinInfo, created.puzzleHash, created.amount⟩)}

theorem isThisLauncher_iff {coins : Set Coin} (collisionFree : Set.InjOn sdk.coinId coins) {launcherCoin : Coin}
    {created : CreateCoin} (own : launcherCoin ∈ coins)
    (made : ⟨launcherCoin.parentCoinInfo, created.puzzleHash, created.amount⟩ ∈ coins) :
    isThisLauncher sdk launcherCoin created = true ↔
      created.puzzleHash = launcherCoin.puzzleHash ∧ created.amount = launcherCoin.amount := by
  rw [isThisLauncher, decide_eq_true_iff, collisionFree.eq_iff made own]
  constructor
  · intro same
    rw [← same]
    exact ⟨rfl, rfl⟩
  · intro fields
    rcases fields with ⟨puzzleHash, amount⟩
    rw [puzzleHash, amount]

theorem stamps_iff {parent : Coin} {launcher : Launcher}
    (collisionFree : Set.InjOn sdk.coinId (comparedCoins sdk parent launcher)) {created : CreateCoin}
    (member : .createCoin created ∈ launcher.conditions) :
    isThisLauncher sdk launcher.coin created = true ↔
      created.puzzleHash = launcher.coin.puzzleHash ∧ created.amount = launcher.coin.amount :=
  isThisLauncher_iff collisionFree (.inl rfl) (.inr ⟨created, member, .inr rfl⟩)

theorem createdBy_iff {parent : Coin} {launcher : Launcher}
    (collisionFree : Set.InjOn sdk.coinId (comparedCoins sdk parent launcher)) {created : CreateCoin}
    (member : .createCoin created ∈ launcher.conditions) :
    sdk.coinId (createdBy sdk parent created) = sdk.coinId launcher.coin ↔
      launcher.coin.parentCoinInfo = sdk.coinId parent ∧
      created.puzzleHash = launcher.coin.puzzleHash ∧ created.amount = launcher.coin.amount := by
  rw [collisionFree.eq_iff (.inr ⟨created, member, .inl rfl⟩) (.inl rfl)]
  constructor
  · intro same
    rw [← same]
    exact ⟨rfl, rfl, rfl⟩
  · intro fields
    rcases fields with ⟨parentId, puzzleHash, amount⟩
    rw [createdBy, ← parentId, puzzleHash, amount]

theorem any_created_iff {conditions : Conditions} {accepts : CreateCoin → Bool} :
    (conditions.any fun condition => match condition.created? with
      | some created => accepts created
      | none => false) = true ↔ ∃ created, .createCoin created ∈ conditions ∧ accepts created = true := by
  rw [List.any_eq_true]
  constructor
  · intro found
    rcases found with ⟨condition, member, accepted⟩
    cases condition with
    | createCoin created => exact ⟨created, member, accepted⟩
    | _ => cases accepted
  · intro found
    rcases found with ⟨created, member, accepted⟩
    exact ⟨_, member, accepted⟩

theorem createsCoin_eq_true {conditions : Conditions} {puzzleHash : Bytes32} {amount : UInt64} :
    createsCoin conditions puzzleHash amount = true ↔ ∃ created, .createCoin created ∈ conditions ∧
      created.puzzleHash = puzzleHash ∧ created.amount = amount := by
  refine any_created_iff.trans (exists_congr fun created => and_congr_right fun _ => ?_)
  rw [Bool.and_eq_true, decide_eq_true_iff, decide_eq_true_iff]

section Rewrite

variable {parent : Coin} {launcher : Launcher} {ownerPuzzleHash : Bytes32} {kind : StoreKind}
  {conditions rewritten : Conditions}

theorem rewritten_created (memos : MemosLaw sdk) (announced : AnnouncesLaunch launcher conditions)
    (each : List.Forall₂ (Rewritten sdk launcher.coin ownerPuzzleHash kind) conditions rewritten)
    {created : CreateCoin} (member : .createCoin created ∈ rewritten) :
    ∃ original, .createCoin original ∈ launcher.conditions ∧ original.puzzleHash = created.puzzleHash ∧
      original.amount = created.amount ∧ (isThisLauncher sdk launcher.coin original = true →
        created.memos = memosOf ((launcherMemos sdk ownerPuzzleHash kind).map BytesImpl.bytes)) := by
  obtain ⟨before, present, related⟩ := Rewritten.source each member
  cases related with
  | @stamped original _ _ _ launched allocated =>
    exact ⟨original, announced.created.mp present, rfl, rfl, fun _ => memos.listed allocated⟩
  | kept foreign =>
    refine ⟨created, announced.created.mp present, rfl, rfl, fun launcher => ?_⟩
    exact absurd launcher (by simpa [stamps, Condition.created?] using foreign)

theorem rewritten_creates_iff (memos : MemosLaw sdk) (announced : AnnouncesLaunch launcher conditions)
    (collisionFree : Set.InjOn sdk.coinId (comparedCoins sdk parent launcher))
    (each : List.Forall₂ (Rewritten sdk launcher.coin ownerPuzzleHash kind) conditions rewritten)
    {created : CreateCoin} (member : .createCoin created ∈ rewritten) :
    sdk.coinId (createdBy sdk parent created) = sdk.coinId launcher.coin ↔
      launcher.coin.parentCoinInfo = sdk.coinId parent ∧
      created.puzzleHash = launcher.coin.puzzleHash ∧ created.amount = launcher.coin.amount := by
  obtain ⟨original, present, puzzleHash, amount, _⟩ := rewritten_created memos announced each member
  have whole := createdBy_iff collisionFree present
  rwa [createdBy, puzzleHash, amount] at whole

/-- A condition is stamped exactly when the base conditions create a coin with the
launcher's puzzle hash and amount. -/
theorem stamped_any_iff (announced : AnnouncesLaunch launcher conditions)
    (collisionFree : Set.InjOn sdk.coinId (comparedCoins sdk parent launcher)) :
    conditions.any (stamps sdk launcher.coin) = true ↔
      createsCoin launcher.conditions launcher.coin.puzzleHash launcher.coin.amount = true := by
  have stamped : conditions.any (stamps sdk launcher.coin) = true ↔ ∃ created,
      .createCoin created ∈ conditions ∧ isThisLauncher sdk launcher.coin created = true := any_created_iff
  rw [stamped, createsCoin_eq_true]
  refine exists_congr fun created => ?_
  rw [announced.created]
  exact and_congr_right fun present => stamps_iff collisionFree present

/-- A stamped creation that the emitting coin does not turn into the launcher only
exists when that coin is not the launcher's parent. -/
theorem foreign_memos_kept (announced : AnnouncesLaunch launcher conditions)
    (collisionFree : Set.InjOn sdk.coinId (comparedCoins sdk parent launcher))
    (each : List.Forall₂ (Rewritten sdk launcher.coin ownerPuzzleHash kind) conditions rewritten)
    (shape : launcher.coin.parentCoinInfo = sdk.coinId parent ∨
      createsCoin launcher.conditions launcher.coin.puzzleHash launcher.coin.amount = false) :
    ForeignMemosKept sdk parent launcher.coin conditions rewritten := by
  have members := (List.forall₂_and_left _ _).mpr ⟨fun condition member => member, each⟩
  refine members.imp fun original rewritten ⟨member, related⟩ created shown foreign => ?_
  cases related with
  | kept _ => rfl
  | @stamped stampedCoin _ _ _ launched allocated =>
    have present := announced.created.mp member
    have fields := (stamps_iff collisionFree present).mp launched
    rcases shape with parentId | absent
    · cases shown
      apply absurd _ foreign
      rw [createdBy, ← parentId, fields.1, fields.2]
    · rw [createsCoin_eq_true.mpr ⟨stampedCoin, present, fields⟩] at absent
      cases absent

/-- A launch reports a stamp of its own launcher truthfully when the emitting coin
is the launcher's parent or nothing was stamped. -/
theorem flag_truthful (memos : MemosLaw sdk) (announced : AnnouncesLaunch launcher conditions)
    (collisionFree : Set.InjOn sdk.coinId (comparedCoins sdk parent launcher)) {launch : DatastoreLaunch}
    (each : List.Forall₂ (Rewritten sdk launcher.coin ownerPuzzleHash kind) conditions launch.parentConditions)
    (flag : launch.launcherMemosWritten = conditions.any (stamps sdk launcher.coin))
    (shape : launcher.coin.parentCoinInfo = sdk.coinId parent ∨
      createsCoin launcher.conditions launcher.coin.puzzleHash launcher.coin.amount = false) :
    FlagTruthful sdk parent launcher.coin ownerPuzzleHash kind launch := by
  have stamped := stamped_any_iff announced collisionFree
  rw [← flag] at stamped
  constructor
  · constructor
    · intro written
      have created := stamped.mp written
      have parentId := shape.resolve_right (by simp [created])
      obtain ⟨original, present, fields⟩ := createsCoin_eq_true.mp created
      obtain ⟨rewritten, member, related⟩ := Rewritten.target each (announced.created.mpr present)
      -- The stamp keeps the puzzle hash and the amount, so either way the coin is the launcher.
      cases related with
      | stamped _ _ =>
        exact ⟨_, member, (rewritten_creates_iff memos announced collisionFree each member).mpr ⟨parentId, fields⟩⟩
      | kept _ =>
        exact ⟨_, member, (rewritten_creates_iff memos announced collisionFree each member).mpr ⟨parentId, fields⟩⟩
    · intro creates
      rcases creates with ⟨created, member, same⟩
      obtain ⟨original, present, puzzleHash, amount, _⟩ := rewritten_created memos announced each member
      obtain ⟨_, fields⟩ := (rewritten_creates_iff memos announced collisionFree each member).mp same
      apply stamped.mpr
      exact createsCoin_eq_true.mpr ⟨original, present, by rw [puzzleHash, amount]; exact fields⟩
  · intro created member same
    obtain ⟨original, present, puzzleHash, amount, written⟩ := rewritten_created memos announced each member
    obtain ⟨_, fields⟩ := (rewritten_creates_iff memos announced collisionFree each member).mp same
    apply written
    exact (stamps_iff collisionFree present).mpr (by rw [puzzleHash, amount]; exact fields)

end Rewrite

/-- A successful launch stamps its own launcher and no other coin, and reports
that truthfully, exactly when the emitting coin is the launcher's parent or no
base condition creates a coin with the launcher's puzzle hash and amount. -/
theorem launcher_memos_truthful_iff (staging : StagingLaw sdk) (memos : MemosLaw sdk) {kind : StoreKind}
    {launcher : Launcher} {metadata : DigDataStoreMetadata} {ownerPuzzleHash : Bytes32}
    {set : List DelegatedPuzzle} {ctx after : SpendContext Allocator} {launch : DatastoreLaunch}
    {minted : Conditions × Datastore DigDataStoreMetadata} (parent : Coin)
    (success : mintDatastoreLaunchWithKind sdk kind launcher metadata ownerPuzzleHash set ctx =
      (.ok launch, after))
    (before : (sdk.launcherMintDatastore launcher metadata ownerPuzzleHash set ctx).1 = .ok minted)
    (collisionFree : Set.InjOn sdk.coinId (comparedCoins sdk parent launcher)) :
    (ForeignMemosKept sdk parent launcher.coin minted.1 launch.parentConditions ∧
      FlagTruthful sdk parent launcher.coin ownerPuzzleHash kind launch) ↔
    launcher.coin.parentCoinInfo = sdk.coinId parent ∨
      createsCoin launcher.conditions launcher.coin.puzzleHash launcher.coin.amount = false := by
  obtain ⟨conditions, staged, mint, each, flag, _⟩ := (Launched.of_ok success).minted
  have announced : AnnouncesLaunch launcher conditions := staging.conditions mint
  have same : minted.1 = conditions := by
    rw [mint] at before
    cases before
    rfl
  rw [same]
  constructor
  · intro kept
    have truthful := kept.2
    by_cases created : createsCoin launcher.conditions launcher.coin.puzzleHash launcher.coin.amount = true
    · have written := (stamped_any_iff announced collisionFree).mpr created
      obtain ⟨coin, member, launched⟩ := truthful.flag.mp (flag.trans written)
      exact .inl ((rewritten_creates_iff memos announced collisionFree each member).mp launched).1
    · exact .inr (by simpa using created)
  · intro shape
    exact ⟨foreign_memos_kept announced collisionFree each shape,
      flag_truthful memos announced collisionFree each flag shape⟩

section Samples

open Reference

def fundingCoin : Coin := ⟨hash32 1, hash32 2, 1000⟩

/-- A launch straight from the funding coin. -/
def directLauncher : Launcher := wallet.launcherNew (coinId fundingCoin) 1

theorem directLauncher_conditions : directLauncher.conditions =
    [.createCoin ⟨wallet.singletonLauncherHash, 1, .none⟩] := rfl

theorem directLauncher_compared {coin : Coin} (compared : coin ∈ comparedCoins wallet fundingCoin directLauncher) :
    coin = directLauncher.coin := by
  rcases compared with same | ⟨created, member, same⟩
  · exact same
  · rw [directLauncher_conditions, List.mem_singleton] at member
    cases member
    rcases same with rfl | rfl <;> rfl

theorem launcher_memos_truthful_direct : ∃ launch minted,
    ForeignMemosKept wallet fundingCoin directLauncher.coin minted launch.parentConditions ∧
    FlagTruthful wallet fundingCoin directLauncher.coin (hash32 3) .file launch := by
  have accepted : (mintDatastoreLaunchWithKind wallet .file directLauncher Reference.metadata (hash32 3) []
      wallet.newContext).1.isOk = true := by decide +kernel
  have stages : (wallet.launcherMintDatastore directLauncher Reference.metadata (hash32 3) []
      wallet.newContext).1.isOk = true := by decide +kernel
  obtain ⟨launch, launched⟩ := except_isOk_iff.mp accepted
  obtain ⟨minted, before⟩ := except_isOk_iff.mp stages
  have collisionFree : Set.InjOn wallet.coinId (comparedCoins wallet fundingCoin directLauncher) := by
    intro coin compared other otherCompared _
    rw [directLauncher_compared compared, directLauncher_compared otherCompared]
  have descends : directLauncher.coin.parentCoinInfo = wallet.coinId fundingCoin := rfl
  obtain ⟨after, success⟩ := Fallible.exists_after launched
  exact ⟨launch, minted.1, (launcher_memos_truthful_iff mintLaw.toStagingLaw memosLaw fundingCoin
    success before collisionFree).mpr (.inl descends)⟩

/-- A coin between the funding coin and the launcher, spent to create the launcher. -/
def intermediateCoin : Coin := ⟨coinId fundingCoin, treeHash intermediatePuzzle, 0⟩

def intermediateSpend : CoinSpend := ⟨intermediateCoin, serialize intermediatePuzzle, serialize (.atom [])⟩

/-- The creation of another store's launcher, with memos of its own. -/
def foreignCreation : CreateCoin := ⟨wallet.singletonLauncherHash, 1, memosOf [[7]]⟩

/-- An intermediate launch whose base conditions also launch another store. -/
def intermediateLauncher : Launcher :=
  ⟨⟨coinId intermediateCoin, wallet.singletonLauncherHash, 1⟩,
    [.createCoin ⟨intermediateCoin.puzzleHash, 0, .none⟩, .createCoin foreignCreation], 1⟩

def intermediateLaunch : MerkleResult DatastoreLaunch :=
  (mintDatastoreLaunchWithKind wallet .file intermediateLauncher Reference.metadata (hash32 3) []
    ⟨(), [intermediateSpend]⟩).1

/-- The coins whose ids that launch compares; the launcher's own parent would create
the foreign launcher as this one. -/
def intermediateCompared : List Coin :=
  [intermediateLauncher.coin, intermediateCoin, ⟨coinId intermediateCoin, intermediateCoin.puzzleHash, 0⟩,
    createdBy wallet fundingCoin foreignCreation]

theorem intermediateLauncher_compared {coin : Coin}
    (compared : coin ∈ comparedCoins wallet fundingCoin intermediateLauncher) : coin ∈ intermediateCompared := by
  rcases compared with same | ⟨created, member, same⟩
  · rw [same]
    exact List.mem_cons_self
  · have shapes : created = ⟨intermediateCoin.puzzleHash, 0, .none⟩ ∨ created = foreignCreation := by
      simpa [intermediateLauncher] using member
    rcases shapes with rfl | rfl
    · rcases same with rfl | rfl
      · exact .tail _ (.head _)
      · exact .tail _ (.tail _ (.head _))
    · rcases same with rfl | rfl
      · exact .tail _ (.tail _ (.tail _ (.head _)))
      · exact .head _

/-- The launch succeeds, the funding coin creates no launcher of this store, and
yet the other store's launcher is stamped and the flag is set. -/
theorem intermediate_launch_stamps_foreign_launcher :
    Set.InjOn wallet.coinId (comparedCoins wallet fundingCoin intermediateLauncher) ∧
    ∃ launch, intermediateLaunch = .ok launch ∧
    stagedSpendOf wallet ⟨(), [intermediateSpend]⟩ intermediateLauncher.coin.parentCoinInfo =
      some intermediateSpend ∧
    intermediateCoin.parentCoinInfo = coinId fundingCoin ∧
    createdBy wallet fundingCoin foreignCreation ≠ intermediateLauncher.coin ∧
    .createCoin foreignCreation ∉ launch.parentConditions ∧
    ¬ FlagTruthful wallet fundingCoin intermediateLauncher.coin (hash32 3) .file launch := by
  have accepted : intermediateLaunch.isOk = true := by decide +kernel
  have flagged : intermediateLaunch.toOption.map DatastoreLaunch.launcherMemosWritten = some true := by
    decide +kernel
  have overwritten : intermediateLaunch.toOption.map (fun launch =>
      decide (.createCoin foreignCreation ∈ launch.parentConditions)) = some false := by decide +kernel
  have foreign : intermediateLaunch.toOption.map (fun launch => launch.parentConditions.any fun condition =>
      condition.created?.any fun created =>
        coinId (createdBy wallet fundingCoin created) = coinId intermediateLauncher.coin) = some false := by
    decide +kernel
  obtain ⟨launch, launched⟩ := except_isOk_iff.mp accepted
  rw [launched] at flagged overwritten foreign
  simp only [Except.toOption, Option.map_some, Option.some.injEq, decide_eq_false_iff_not,
    List.any_eq_false] at flagged overwritten foreign
  have distinct : (intermediateCompared.map coinId).Nodup := by decide +kernel
  have collisionFree : Set.InjOn wallet.coinId (comparedCoins wallet fundingCoin intermediateLauncher) :=
    injOn_of_nodup distinct fun _ => intermediateLauncher_compared
  refine ⟨collisionFree, launch, launched, by decide +kernel, rfl, by decide +kernel, overwritten,
    fun truthful => ?_⟩
  obtain ⟨created, member, same⟩ := truthful.flag.mp flagged
  exact foreign _ member (decide_eq_true same)

end Samples

end DigMerkle
