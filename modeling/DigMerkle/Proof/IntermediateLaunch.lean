import DigMerkle.Proof.LaunchAtomicity
import DigMerkle.Proof.LauncherMemos
import DigMerkle.Proof.Lifetime
import DigMerkle.Proof.Mint
import DigMerkle.Proof.OwnerWalk

namespace DigMerkle

open Library

variable {Allocator : Type} {sdk : Sdk Allocator}

theorem spendCreates_eq_ok {spend : CoinSpend} {expected : Coin} {ctx : SpendContext Allocator} {creates : Bool} :
    (spendCreates sdk spend expected ctx).1 = .ok creates ↔ ∃ emitted, SpendEmits sdk spend emitted ∧
      (emitted.any fun condition => match condition.created? with
        | some created => sdk.coinId (createdBy sdk spend.coin created) = sdk.coinId expected
        | none => false) = creates := by
  constructor
  · intro success
    obtain ⟨after, inContext⟩ := Fallible.exists_after success
    simp only [spendCreates, allocProgram, Fallible.bind_eq_ok, Fallible.ofExcept_eq_ok,
      Fallible.pure_eq_ok, except_mapError_eq_ok] at inContext
    obtain ⟨puzzle, _, ⟨reveal, _⟩, solution, _, ⟨solved, _⟩, output, _, ⟨ran, _⟩, emitted, _, ⟨decoded, _⟩,
      judged, _⟩ := inContext
    refine ⟨emitted, ⟨puzzle, solution, reveal, solved, ?_⟩, judged⟩
    rw [Sdk.emitted, except_bind_eq_ok]
    exact ⟨output, ran, except_mapError_eq_ok.mpr decoded⟩
  · intro emits
    rcases emits with ⟨emitted, ⟨puzzle, solution, reveal, solved, ran⟩, judged⟩
    obtain ⟨output, ran, decoded⟩ := except_bind_eq_ok.mp ran
    have inContext : spendCreates sdk spend expected ctx = (.ok creates, ctx) := by
      simp only [spendCreates, allocProgram, Fallible.bind_eq_ok, Fallible.ofExcept_eq_ok,
        Fallible.pure_eq_ok, except_mapError_eq_ok]
      exact ⟨puzzle, ctx, ⟨reveal, rfl⟩, solution, ctx, ⟨solved, rfl⟩, output, ctx, ⟨ran, rfl⟩, emitted, ctx,
        ⟨except_mapError_eq_ok.mp decoded, rfl⟩, judged, rfl⟩
    rw [inContext]

theorem spendCreates_eq_true {spend : CoinSpend} {expected : Coin} {ctx : SpendContext Allocator} :
    (spendCreates sdk spend expected ctx).1 = .ok true ↔ ∃ emitted created, SpendEmits sdk spend emitted ∧
      .createCoin created ∈ emitted ∧ sdk.coinId (createdBy sdk spend.coin created) = sdk.coinId expected := by
  rw [spendCreates_eq_ok]
  refine exists_congr fun emitted => ?_
  rw [exists_and_left]
  refine and_congr_right fun _ => any_created_iff.trans (exists_congr fun created => ?_)
  rw [decide_eq_true_iff]

/-- The conditions create the intermediate coin, and its own spend creates the
launcher under its full id. -/
structure ReachesThrough (sdk : Sdk Allocator) (conditions : Conditions) (intermediate : CoinSpend)
    (launcherCoin : Coin) : Prop where
  hop : ∃ created, .createCoin created ∈ conditions ∧
    created.puzzleHash = intermediate.coin.puzzleHash ∧ created.amount = intermediate.coin.amount
  launches : ∃ emitted created, SpendEmits sdk intermediate emitted ∧ .createCoin created ∈ emitted ∧
    sdk.coinId (createdBy sdk intermediate.coin created) = sdk.coinId launcherCoin

theorem reachesThroughStaged_iff {ctx : SpendContext Allocator} {conditions : Conditions} {launcherCoin : Coin}
    {intermediate : CoinSpend} (staged : stagedSpendOf sdk ctx launcherCoin.parentCoinInfo = some intermediate) :
    ReachesThroughStaged sdk ctx conditions launcherCoin ↔
      ReachesThrough sdk conditions intermediate launcherCoin := by
  unfold ReachesThroughStaged
  rw [staged]
  simp only [Option.some.injEq, exists_eq_left', createsCoin_eq_true, spendCreates_eq_true]
  exact ⟨fun reached => ⟨reached.1, reached.2⟩, fun reached => ⟨reached.hop, reached.launches⟩⟩

theorem ReachesThrough.congr {conditions rewritten : Conditions} {intermediate : CoinSpend} {launcherCoin : Coin}
    (created : ∀ puzzleHash amount, createsCoin rewritten puzzleHash amount = createsCoin conditions puzzleHash amount) :
    ReachesThrough sdk rewritten intermediate launcherCoin ↔ ReachesThrough sdk conditions intermediate launcherCoin := by
  have hop := created intermediate.coin.puzzleHash intermediate.coin.amount
  rw [Bool.eq_iff_iff, createsCoin_eq_true, createsCoin_eq_true] at hop
  constructor
  · intro reached
    exact ⟨hop.mp reached.hop, reached.launches⟩
  · intro reached
    exact ⟨hop.mpr reached.hop, reached.launches⟩

/-- What the guard of an accepted launch saw, in the context that the launch was
called on and the base conditions it was given. -/
theorem launch_reaches (staging : StagingLaw sdk) {kind : StoreKind} {launcher : Launcher}
    {metadata : DigDataStoreMetadata} {ownerPuzzleHash : Bytes32} {set : List DelegatedPuzzle}
    {ctx after : SpendContext Allocator} {launch : DatastoreLaunch}
    (success : mintDatastoreLaunchWithKind sdk kind launcher metadata ownerPuzzleHash set ctx =
      (.ok launch, after)) :
    ReachesLauncher sdk ctx launcher.conditions launcher.coin := by
  simp only [mintDatastoreLaunchWithKind_eq, Fallible.bind_eq_ok, Fallible.ofExcept_eq_ok, driving_eq_ok] at success
  obtain ⟨_, _, ⟨_, rfl⟩, minted, staged, mint, finish⟩ := success
  obtain ⟨spend, appended, coin⟩ := staging.staged mint
  have announced : AnnouncesLaunch launcher minted.1 := staging.conditions mint
  have reached := (finishLaunch_succeeds.mp ⟨launch, after, finish⟩).2.2
  rwa [ReachesLauncher.of_staged appended coin, ReachesLauncher.congr rfl announced.createsCoin] at reached

/-- An accepted launch over a staged spend of the launcher's parent is reached through it when
no base condition has the launcher's puzzle hash and amount: the guard's first check, which
takes such a condition for the launcher, then leaves the chain to the second. -/
theorem accepted_launch_reaches_through (staging : StagingLaw sdk) {kind : StoreKind} {launcher : Launcher}
    {metadata : DigDataStoreMetadata} {ownerPuzzleHash : Bytes32} {set : List DelegatedPuzzle}
    {ctx after : SpendContext Allocator} {launch : DatastoreLaunch}
    (success : mintDatastoreLaunchWithKind sdk kind launcher metadata ownerPuzzleHash set ctx =
      (.ok launch, after))
    (held : ∃ spend ∈ ctx.coinSpends, sdk.coinId spend.coin = launcher.coin.parentCoinInfo)
    (indirect : ∀ created, .createCoin created ∈ launcher.conditions →
      ¬ (created.puzzleHash = launcher.coin.puzzleHash ∧ created.amount = launcher.coin.amount)) :
    ∃ intermediate, stagedSpendOf sdk ctx launcher.coin.parentCoinInfo = some intermediate ∧
      ReachesThrough sdk launch.parentConditions intermediate launcher.coin := by
  obtain ⟨intermediate, staged⟩ : ∃ intermediate,
      stagedSpendOf sdk ctx launcher.coin.parentCoinInfo = some intermediate := by
    obtain ⟨spend, member, same⟩ := held
    rw [← Option.isSome_iff_exists, stagedSpendOf, List.find?_isSome]
    exact ⟨spend, member, decide_eq_true same⟩
  obtain ⟨conditions, _, mint, each, _⟩ := (Launched.of_ok success).minted
  have announced : AnnouncesLaunch launcher conditions := staging.conditions mint
  have created : ∀ puzzleHash amount, createsCoin launch.parentConditions puzzleHash amount =
      createsCoin launcher.conditions puzzleHash amount := by
    intro puzzleHash amount
    rw [Rewritten.createsCoin each, announced.createsCoin]
  refine ⟨intermediate, staged, (ReachesThrough.congr created).mpr ?_⟩
  rcases launch_reaches staging success with direct | through
  · obtain ⟨creation, member, same⟩ := createsCoin_eq_true.mp direct
    exact absurd same (indirect creation member)
  · exact (reachesThroughStaged_iff staged).mp through

section Samples

open Reference

/-- A launcher under the intermediate coin, with the given base conditions. -/
def launcherUnderHop (conditions : Conditions) : Launcher :=
  ⟨⟨coinId intermediateCoin, wallet.singletonLauncherHash, 1⟩, conditions, 1⟩

def launchUnderHop (conditions : Conditions) : MerkleResult DatastoreLaunch :=
  (mintDatastoreLaunchWithKind wallet .file (launcherUnderHop conditions) Reference.metadata (hash32 3) []
    ⟨(), [intermediateSpend]⟩).1

theorem staged_under_hop (conditions : Conditions) :
    stagedSpendOf wallet ⟨(), [intermediateSpend]⟩ (launcherUnderHop conditions).coin.parentCoinInfo =
      some intermediateSpend := by
  simp [stagedSpendOf, launcherUnderHop, intermediateSpend, wallet, base]

theorem launch_under_hop_reaches : ∃ (launch : DatastoreLaunch) (conditions : Conditions),
    launchUnderHop conditions = .ok launch ∧
    ReachesThrough wallet launch.parentConditions intermediateSpend (launcherUnderHop conditions).coin := by
  have accepted : (launchUnderHop [.createCoin ⟨intermediateCoin.puzzleHash, 0, .none⟩]).isOk = true := by
    decide +kernel
  have indirect : ∀ created, .createCoin created ∈
      (launcherUnderHop [.createCoin ⟨intermediateCoin.puzzleHash, 0, .none⟩]).conditions →
      ¬ (created.puzzleHash = wallet.singletonLauncherHash ∧ created.amount = 1) := by
    intro created member
    cases List.mem_singleton.mp member
    decide +kernel
  obtain ⟨launch, launched⟩ := except_isOk_iff.mp accepted
  obtain ⟨after, success⟩ := Fallible.exists_after launched
  obtain ⟨intermediate, staged, reaches⟩ := accepted_launch_reaches_through mintLaw.toStagingLaw success
    ⟨intermediateSpend, List.mem_singleton_self _, rfl⟩ indirect
  cases (staged_under_hop _).symm.trans staged
  exact ⟨launch, _, launched, reaches⟩

/-- The creation of another store's launcher is the only base condition, and the launch
is accepted although nothing creates the intermediate coin. -/
theorem foreign_launcher_stands_in : ∃ launch, launchUnderHop [.createCoin foreignCreation] = .ok launch ∧
    stagedSpendOf wallet ⟨(), [intermediateSpend]⟩
      (launcherUnderHop [.createCoin foreignCreation]).coin.parentCoinInfo = some intermediateSpend ∧
    ¬ ReachesThrough wallet launch.parentConditions intermediateSpend
      (launcherUnderHop [.createCoin foreignCreation]).coin := by
  have accepted : (launchUnderHop [.createCoin foreignCreation]).isOk = true := by decide +kernel
  have missed : (launchUnderHop [.createCoin foreignCreation]).toOption.map (fun launch =>
      createsCoin launch.parentConditions intermediateCoin.puzzleHash intermediateCoin.amount) = some false := by
    decide +kernel
  obtain ⟨launch, launched⟩ := except_isOk_iff.mp accepted
  rw [launched] at missed
  refine ⟨launch, launched, staged_under_hop _, fun reached => ?_⟩
  have created := createsCoin_eq_true.mpr reached.hop
  cases (Option.some.inj missed).symm.trans created

end Samples

/-- The spend reveals its coin's puzzle, and the SDK's parser takes it for the DID's. -/
def SpentAsDid (sdk : Sdk Allocator) (spend : CoinSpend) (didRef : DidRef) : Prop :=
  ∃ puzzle solution, Reveals sdk spend puzzle ∧ sdk.programToClvm spend.solution = .ok solution ∧
    sdk.didParse spend.coin puzzle solution = .ok (some didRef.launcherId)

theorem readSpendOf_served {chain : ChainSource} {refusal : Bytes32 → String} {spend : CoinSpend}
    (served : chain (sdk.coinId spend.coin) = .ok (some spend)) :
    readSpendOf sdk chain (sdk.coinId spend.coin) refusal = .ok (some spend) :=
  readSpendOf_eq_some.mpr ⟨served, rfl⟩

section Hop

variable {parentCoinId : Bytes32} {args : NftIntermediateLauncherArgs} {spend : CoinSpend}

theorem IsIntermediate.parentCoinInfo (hop : IsIntermediate sdk parentCoinId args spend) :
    spend.coin.parentCoinInfo = parentCoinId := by
  obtain ⟨puzzle, curried, _, coin, _⟩ := hop.puzzle
  rw [coin]

theorem IsIntermediate.no_did (law : IntermediateLaw sdk) (hop : IsIntermediate sdk parentCoinId args spend) :
    didRefFromSpend sdk spend = .ok none := by
  obtain ⟨puzzle, curried, reveal, coin, parsed, mod, _⟩ := hop.puzzle
  obtain ⟨solution, solved⟩ := hop.solution
  apply didRefFromSpend_eq_ok.mpr
  exact ⟨puzzle, solution, none, ⟨reveal, by rw [coin]⟩, solved, law.notDid parsed mod, rfl⟩

theorem IsIntermediate.recognised (hop : IsIntermediate sdk parentCoinId args spend) {launcherCoin : Coin}
    (launcherHash : args.launcherPuzzleHash = sdk.singletonLauncherHash)
    (created : launcherCoin = ⟨sdk.coinId spend.coin, sdk.singletonLauncherHash, 1⟩) :
    isLauncherIntermediate sdk spend launcherCoin = true := by
  obtain ⟨puzzle, curried, reveal, coin, parsed, mod, shown⟩ := hop.puzzle
  apply isLauncherIntermediate_eq_true.mpr
  exact ⟨by rw [coin], puzzle, curried, args, ⟨reveal, by rw [coin]⟩, parsed, mod, shown, launcherHash,
    by rw [created]⟩

/-- A source that serves a lineage over a hop leaves the answer to the spend above it. -/
theorem IsIntermediate.resolves (law : IntermediateLaw sdk) {chain : ChainSource}
    {launcherSpend parentSpend : CoinSpend} (hop : IsIntermediate sdk (sdk.coinId parentSpend.coin) args spend)
    (launcherHash : args.launcherPuzzleHash = sdk.singletonLauncherHash)
    (created : launcherSpend.coin = ⟨sdk.coinId spend.coin, sdk.singletonLauncherHash, 1⟩)
    (served : ∀ served ∈ [launcherSpend, spend, parentSpend], chain (sdk.coinId served.coin) = .ok (some served)) :
    resolveOwnerDid sdk (sdk.coinId launcherSpend.coin) chain = didRefFromSpend sdk parentSpend := by
  have launcher : readLauncherSpend sdk chain (sdk.coinId launcherSpend.coin) = .ok (some launcherSpend) :=
    readSpendOf_served (served launcherSpend (by simp))
  have creator : readBoundSpend sdk chain launcherSpend.coin.parentCoinInfo = .ok (some spend) := by
    rw [created]
    exact readSpendOf_served (served spend (by simp))
  have beyond : readBoundSpend sdk chain spend.coin.parentCoinInfo = .ok (some parentSpend) := by
    rw [hop.parentCoinInfo]
    exact readSpendOf_served (served parentSpend (by simp))
  simp only [resolveOwnerDid, launcher, resolveFromLauncher, creator, hop.no_did law, resolveThroughIntermediate,
    hop.recognised launcherHash created, beyond, bind, Except.bind, if_true]

end Hop

/-- Whatever launch is built over an intermediate launcher of a coin, a source that
serves the two staged spends and the coin's own resolves it to the DID that the coin
was spent as, and no launcher memos are reported unless a base condition creates a
launcher. -/
theorem intermediate_launch_resolves (law : IntermediateLaw sdk) (mint : MintLaw sdk) {kind : StoreKind}
    {mintNumber mintTotal : UInt64} {created launcher : Launcher} {metadata : DigDataStoreMetadata}
    {ownerPuzzleHash : Bytes32} {set : List DelegatedPuzzle} {ctx middle before after : SpendContext Allocator}
    {launch : DatastoreLaunch} {launcherSpend intermediateSpend parentSpend : CoinSpend} {chain : ChainSource}
    (create : sdk.intermediateLauncherCreate (sdk.coinId parentSpend.coin) mintNumber mintTotal ctx =
      (.ok created, middle))
    (stagedHop : middle.coinSpends = ctx.coinSpends ++ [intermediateSpend])
    (same : launcher.coin = created.coin)
    (success : mintDatastoreLaunchWithKind sdk kind launcher metadata ownerPuzzleHash set before =
      (.ok launch, after))
    (staged : after.coinSpends = before.coinSpends ++ [launcherSpend])
    (served : ∀ spend ∈ [launcherSpend, intermediateSpend, parentSpend],
      chain (sdk.coinId spend.coin) = .ok (some spend)) :
    resolveOwnerDid sdk launch.datastore.info.launcherId chain = didRefFromSpend sdk parentSpend ∧
    (∀ didRef, resolveOwnerDid sdk launch.datastore.info.launcherId chain = .ok (some didRef) ↔
      SpentAsDid sdk parentSpend didRef) ∧
    (Set.InjOn sdk.coinId (comparedCoins sdk parentSpend.coin launcher) →
      (∀ created, .createCoin created ∈ launcher.conditions → created.puzzleHash ≠ sdk.singletonLauncherHash) →
      launch.launcherMemosWritten = false) := by
  have launched := Launched.of_ok success
  obtain ⟨conditions, stagedCtx, minted, _, flag, kept⟩ := launched.minted
  have hop : IsIntermediate sdk (sdk.coinId parentSpend.coin)
        ⟨sdk.singletonLauncherHash, mintNumber.toNat, mintTotal.toNat⟩ intermediateSpend ∧
      launcher.coin = ⟨sdk.coinId intermediateSpend.coin, sdk.singletonLauncherHash, 1⟩ := by
    obtain ⟨spend, appended, hop, coin⟩ := law.created create
    have one : intermediateSpend = spend := by simpa using stagedHop.symm.trans appended
    rw [one, same]
    exact ⟨hop, coin⟩
  have launcherCoin : launcherSpend.coin = launcher.coin := by
    obtain ⟨spend, appended, coin⟩ := mint.staged minted
    have one : launcherSpend = spend := by simpa using (staged.symm.trans kept).trans appended
    rw [one, coin]
  have resolved : resolveOwnerDid sdk launch.datastore.info.launcherId chain = didRefFromSpend sdk parentSpend := by
    rw [(launched.coherent mint).1.launcherId, ← launcherCoin]
    exact hop.1.resolves law rfl (launcherCoin.trans hop.2) served
  refine ⟨resolved, fun didRef => by rw [resolved]; exact didRefFromSpend_eq_some, ?_⟩
  intro collisionFree noLauncher
  have announced : AnnouncesLaunch launcher conditions := mint.conditions minted
  rw [flag, ← Bool.not_eq_true, stamped_any_iff announced collisionFree, createsCoin_eq_true]
  intro creates
  obtain ⟨creation, member, puzzleHash, _⟩ := creates
  exact noLauncher creation member (puzzleHash.trans launched.legal)

section Samples

open Reference

/-- The DID's own spend. -/
def didSpend : CoinSpend := ⟨didCoin, serialize didPuzzle, serialize (.atom [])⟩

/-- The third of seven intermediates that the DID creates. -/
def numberedCoin : Coin := ⟨coinId didCoin, treeHash (numberedPuzzle 3 7), 0⟩

def numberedSpend : CoinSpend := ⟨numberedCoin, serialize (numberedPuzzle 3 7), serialize (.atom [])⟩

/-- The launcher under that intermediate. -/
def numberedLauncher (singletonAmount : UInt64) : Launcher :=
  ⟨⟨coinId numberedCoin, wallet.singletonLauncherHash, 1⟩, [.createCoin ⟨numberedCoin.puzzleHash, 0, .none⟩],
    singletonAmount⟩

def numberedLaunch : MerkleResult DatastoreLaunch :=
  (mintDatastoreLaunchWithKind wallet .didProfile (numberedLauncher 3) Reference.metadata ownerHash delegates
    ⟨(), [numberedSpend]⟩).1

/-- A source that serves the given spends. -/
def listedSource (spends : List CoinSpend) : ChainSource := fun id =>
  .ok (spends.find? fun spend => coinId spend.coin = id)

theorem listedSource_serves {spends : List CoinSpend}
    (distinct : (spends.map fun spend => coinId spend.coin).Nodup) {spend : CoinSpend} (member : spend ∈ spends) :
    listedSource spends (coinId spend.coin) = .ok (some spend) := by
  apply congrArg Except.ok
  cases found : spends.find? fun other => coinId other.coin = coinId spend.coin with
  | none => exact absurd (List.find?_eq_none.mp found spend member) (by simp)
  | some other =>
    have same : coinId other.coin = coinId spend.coin := by simpa using List.find?_some found
    rw [List.inj_on_of_nodup_map distinct (List.mem_of_find?_eq_some found) member same]

theorem numberedLauncher_compared {coin : Coin}
    (compared : coin ∈ comparedCoins wallet didCoin (numberedLauncher 3)) :
    coin ∈ [(numberedLauncher 3).coin, numberedCoin, ⟨coinId numberedCoin, numberedCoin.puzzleHash, 0⟩] := by
  rcases compared with same | ⟨created, member, same⟩
  · rw [same]
    exact List.mem_cons_self
  · cases List.mem_singleton.mp member
    rcases same with rfl | rfl
    · exact .tail _ (.head _)
    · exact .tail _ (.tail _ (.head _))

theorem numbered_launch_resolves : ∃ launch chain, numberedLaunch = .ok launch ∧
    resolveOwnerDid wallet launch.datastore.info.launcherId chain = .ok (some ⟨hash32 9⟩) ∧
    launch.launcherMemosWritten = false := by
  have accepted : numberedLaunch.isOk = true := by decide +kernel
  have recognised : didRefFromSpend wallet didSpend = .ok (some ⟨hash32 9⟩) := by decide +kernel
  have ids : ([(numberedLauncher 3).coin, numberedCoin, didCoin].map coinId).Nodup := by decide +kernel
  have compared : ([(numberedLauncher 3).coin, numberedCoin,
      ⟨coinId numberedCoin, numberedCoin.puzzleHash, 0⟩].map coinId).Nodup := by decide +kernel
  have other : numberedCoin.puzzleHash ≠ wallet.singletonLauncherHash := by decide +kernel
  obtain ⟨launch, launched⟩ := except_isOk_iff.mp accepted
  obtain ⟨after, success⟩ := Fallible.exists_after launched
  obtain ⟨_, _, minted, _, _, kept⟩ := (Launched.of_ok success).minted
  obtain ⟨launcherSpend, appended, coin⟩ := mintLaw.staged minted
  have distinct : ([launcherSpend, numberedSpend, didSpend].map fun spend => coinId spend.coin).Nodup := by
    simp only [List.map_cons, coin]
    exact ids
  have collisionFree : Set.InjOn wallet.coinId (comparedCoins wallet didCoin (numberedLauncher 3)) :=
    injOn_of_nodup compared fun _ => numberedLauncher_compared
  have noLauncher : ∀ created, .createCoin created ∈ (numberedLauncher 3).conditions →
      created.puzzleHash ≠ wallet.singletonLauncherHash := by
    intro created member
    cases List.mem_singleton.mp member
    exact other
  have create : wallet.intermediateLauncherCreate (wallet.coinId didSpend.coin) 3 7 wallet.newContext =
      (.ok (numberedLauncher 1), ⟨(), [numberedSpend]⟩) := rfl
  have served : ∀ spend ∈ [launcherSpend, numberedSpend, didSpend],
      listedSource [launcherSpend, numberedSpend, didSpend] (wallet.coinId spend.coin) = .ok (some spend) :=
    fun spend member => listedSource_serves distinct member
  have sameCoin : (numberedLauncher 3).coin = (numberedLauncher 1).coin := rfl
  have resolves := intermediate_launch_resolves intermediateLaw mintLaw create (List.nil_append _).symm sameCoin
    success (kept.trans appended) served
  exact ⟨launch, _, launched, resolves.1.trans recognised, resolves.2.2 collisionFree noLauncher⟩

end Samples

end DigMerkle
